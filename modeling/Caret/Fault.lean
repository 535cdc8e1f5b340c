import Caret.Template.Fault

/-!
# Faults

Every reason for which an operation of the library refuses its input, with its kind and the text that
reports it. Numbers are written in full, however many digits they have.
-/

namespace Caret

/-- What a value may be unable to do. -/
inductive Ability where
  | length
  | indexing
  | membership
  | iteration
  | reversal
  | attribute (name : Text)

/-- What the operating system refuses. It gives no text for a path that cannot be used. -/
inductive SystemFault where
  | refused
  | embeddedNull
  | variableName
  /-- The surrogates between two offsets of a text have no form in a name. -/
  | unencodable (t : Text) (start stop : Nat)

inductive Fault where
  /-- A surrogate without its partner at an offset of a text. -/
  | loneSurrogate (unit : CodePoint) (offset : Nat)
  /-- The last element of a source is not the end marker, or there is none. -/
  | unmarkedEnd
  /-- The end marker stands before the last element of a source. -/
  | earlyEnd
  | zeroStep
  | steppedSource
  | steppedWindow
  | windowBounds (start stop : Int) (length : Nat)
  | windowIndex (index : Int)
  /-- An index lies outside a list of items, which is named by its kind. -/
  | itemIndex (kind : Text)
  | greatIndex
  /-- A diagnostic asks for an index outside its sequence. -/
  | outside (index : Int) (length : Nat)
  | notFound
  | notInTuple
  | notInList (item : Value)
  | notInText
  /-- An element that is no text keeps a sequence from being written as text. -/
  | notCharacter (position : Nat) (element : Value)
  | notText (position : Nat) (element : Value)
  /-- Only a text can be a part of a text. -/
  | notTextPart (item : Value)
  | notTextToCount (item : Value)
  | negativeCount (count : Int)
  | greatCount
  /-- A text would be longer than any can be. -/
  | longText
  /-- A text would be longer than any memory can hold. -/
  | outOfMemory
  | badPointer (pointer : Value)
  /-- A value that can change has no hash key. -/
  | unhashable (kind : Text)
  | missingKey (key : Value)
  | unable (kind : Text) (ability : Ability)
  | readOnly (field : Text)
  | template (fault : TemplateFault)
  /-- A layout shows no field of a record. -/
  | badLayout (layout : Text)
  | unknownField (name : Value)
  | notKey (value : Value)
  | unknownFormat (format : Value)
  | unknownLevel (level : Value)
  | notPath (value : Value)
  | system (fault : SystemFault)
  | noSettings

/-! ### Kinds -/

/-- The kinds of faults that a caller can tell apart without the text. -/
inductive FaultKind where
  | attribute
  | encoding
  | index
  | key
  | memory
  | noSettings
  | overflow
  | readOnly
  | system
  | type
  | value
deriving DecidableEq

def FaultKind.name : FaultKind → Text
  | .attribute => text "AttributeError"
  | .encoding => text "UnicodeEncodeError"
  | .index => text "IndexError"
  | .key => text "KeyError"
  | .memory => text "MemoryError"
  | .noSettings => text "NoConfig"
  | .overflow => text "OverflowError"
  | .readOnly => text "FrozenInstanceError"
  | .system => text "OSError"
  | .type => text "TypeError"
  | .value => text "ValueError"

def TemplateFault.kind : TemplateFault → FaultKind
  | .unfinishedConversion | .unfinishedKey | .unknownConversion .. | .greatWidth
  | .greatPrecision => .value
  | .noSuchCharacter | .infiniteInteger | .greatInteger | .tooManyDigits | .greatWidthArgument
  | .greatPrecisionArgument => .overflow
  | .unusedArguments | .missingArguments | .noDictionary | .notAmount | .notNumber ..
  | .notInteger .. | .notReal .. | .notCharacter => .type

def SystemFault.kind : SystemFault → FaultKind
  | .refused => .system
  | .unencodable .. => .encoding
  | .embeddedNull | .variableName => .value

def Fault.kind : Fault → FaultKind
  | .windowBounds .. | .windowIndex .. | .itemIndex .. | .greatIndex | .outside .. => .index
  | .missingKey .. => .key
  | .unable _ (.attribute _) => .attribute
  | .unable .. | .notText .. | .notTextPart .. | .notTextToCount .. | .unhashable .. | .notKey ..
  | .notPath .. => .type
  | .greatCount | .longText => .overflow
  | .outOfMemory => .memory
  | .readOnly .. => .readOnly
  | .template f => f.kind
  | .system f => f.kind
  | .noSettings => .noSettings
  | .loneSurrogate .. | .unmarkedEnd | .earlyEnd | .zeroStep | .steppedSource | .steppedWindow
  | .notFound | .notInTuple | .notInList .. | .notInText | .notCharacter .. | .negativeCount ..
  | .badPointer .. | .badLayout .. | .unknownField .. | .unknownFormat .. | .unknownLevel .. =>
    .value

/-! ### Messages -/

namespace Ability

def message (kind : Text) : Ability → Text
  | .length => text "object of type '" ++ kind ++ text "' has no len()"
  | .indexing => text "'" ++ kind ++ text "' object is not subscriptable"
  | .membership => text "argument of type '" ++ kind ++ text "' is not iterable"
  | .iteration => text "'" ++ kind ++ text "' object is not iterable"
  | .reversal => text "'" ++ kind ++ text "' object is not reversible"
  | .attribute name =>
    text "'" ++ kind ++ text "' object has no attribute '" ++ name ++ text "'"

end Ability

namespace SystemFault

def message : SystemFault → Text
  | .refused => []
  | .embeddedNull => text "embedded null byte"
  | .variableName => text "illegal environment variable name"
  | .unencodable t start stop =>
    text "'utf-8' codec can't encode character" ++
      (if stop = start + 1 then
        text " '" ++ (t[start]?.map Text.numbered).getD [] ++ text "' in position " ++
          Text.ofNat start
      else
        text "s in position " ++ Text.ofNat start ++ text "-" ++ Text.ofNat (stop - 1)) ++
      text ": surrogates not allowed"

end SystemFault

namespace Fault

def message : Fault → Text
  | .loneSurrogate unit offset =>
    text "lone surrogate U+" ++ Text.hex 'A' 4 unit.val ++ text " at offset " ++
      Text.ofNat offset ++ text " is not a scalar value"
  | .unmarkedEnd => text "character sequence must end with EOT"
  | .earlyEnd => text "EOT may only appear at the final position"
  | .zeroStep => text "slice step cannot be zero"
  | .steppedSource => text "character sequences only support contiguous slices"
  | .steppedWindow => text "views only support contiguous slices"
  | .windowBounds start stop length =>
    text "view bounds [" ++ Text.ofInt start ++ text ", " ++ Text.ofInt stop ++
      text ") outside sequence of length " ++ Text.ofNat length
  | .windowIndex index => text "view index " ++ Text.ofInt index ++ text " out of range"
  | .itemIndex kind => kind ++ text " index out of range"
  | .greatIndex => text "cannot fit 'int' into an index-sized integer"
  | .outside index length =>
    text "index " ++ Text.ofInt index ++ text " out of range for sequence of length " ++
      Text.ofNat length
  | .notFound => []
  | .notInTuple => text "tuple.index(x): x not in tuple"
  | .notInList item => item.quoted ++ text " is not in list"
  | .notInText => text "substring not found"
  | .notCharacter position element =>
    text "element " ++ Text.ofNat position ++ text " is " ++ element.quoted ++
      text ", not a character; slice the view short of the EOT marker before unslicing"
  | .notText position element =>
    text "sequence item " ++ Text.ofNat position ++ text ": expected str instance, " ++
      element.kindName ++ text " found"
  | .notTextPart item =>
    text "'in <string>' requires string as left operand, not " ++ item.kindName
  | .notTextToCount item => text "must be str, not " ++ item.kindName
  | .negativeCount count => text "count must be non-negative, got " ++ Text.ofInt count
  | .greatCount => text "cannot fit 'int' into an index-sized integer"
  | .longText => text "repeated string is too long"
  | .outOfMemory => []
  | .badPointer pointer =>
    text "Diagnostic pointer must be one visible ASCII character, got " ++ pointer.quoted
  | .unhashable kind => text "unhashable type: '" ++ kind ++ text "'"
  | .missingKey key => key.quoted
  | .unable kind ability => ability.message kind
  | .readOnly field => text "cannot assign to field " ++ Text.quoted field
  | .template fault => fault.message
  | .badLayout layout => text "Invalid format '" ++ layout ++ text "' for '%' style"
  | .unknownField name => text "Formatting field not found in record: " ++ name.quoted
  | .notKey value =>
    text "keys must be str, int, float, bool or None, not " ++ value.kindName
  | .unknownFormat format =>
    text "Unknown log format '" ++ format.display ++ text "'; expected one of text, json"
  | .unknownLevel level => text "Unknown log level '" ++ level.display ++ text "'"
  | .notPath value => text "expected str, bytes or os.PathLike object, not " ++ value.kindName
  | .system fault => fault.message
  | .noSettings => []

end Fault

/-! ### Results -/

theorem map_eq_ok_iff {ε α β : Type} {r : Except ε α} {f : α → β} {b : β} :
    r.map f = .ok b ↔ ∃ a, r = .ok a ∧ f a = b := by
  cases r with
  | error e => simp [Except.map]
  | ok a => simp [Except.map]

theorem map_eq_error_iff {ε α β : Type} {r : Except ε α} {f : α → β} {e : ε} :
    r.map f = .error e ↔ r = .error e := by
  cases r with
  | error e => simp [Except.map]
  | ok a => simp [Except.map]

/-- Results that are mapped to the same are refused for the same, or both given. -/
theorem map_eq_map {ε α β : Type} {r s : Except ε α} {f : α → β} (h : r.map f = s.map f) :
    (∃ e, r = .error e ∧ s = .error e) ∨ ∃ a b, r = .ok a ∧ s = .ok b ∧ f a = f b := by
  cases r with
  | error e => exact .inl ⟨e, rfl, map_eq_error_iff.mp h.symm⟩
  | ok a =>
    obtain ⟨b, hb, hsame⟩ := map_eq_ok_iff.mp h.symm
    exact .inr ⟨a, b, rfl, hb, hsame.symm⟩

theorem mapError_eq_ok_iff {ε ε' α : Type} {r : Except ε α} {f : ε → ε'} {a : α} :
    r.mapError f = .ok a ↔ r = .ok a := by
  cases r with
  | error e => exact ⟨nofun, nofun⟩
  | ok b => exact ⟨fun h => congrArg Except.ok (Except.ok.inj h), fun h =>
      congrArg Except.ok (Except.ok.inj h)⟩

theorem mapError_eq_error_iff {ε ε' α : Type} {r : Except ε α} {f : ε → ε'} {e : ε'} :
    r.mapError f = .error e ↔ ∃ g, r = .error g ∧ f g = e := by
  cases r with
  | error g =>
    refine ⟨fun h => ⟨g, rfl, Except.error.inj h⟩, ?_⟩
    rintro ⟨_, ⟨⟩, rfl⟩
    rfl
  | ok a =>
    refine ⟨nofun, ?_⟩
    rintro ⟨_, ⟨⟩, _⟩

theorem bind_eq_ok_iff {ε α β : Type} {r : Except ε α} {f : α → Except ε β} {b : β} :
    (r >>= f) = .ok b ↔ ∃ a, r = .ok a ∧ f a = .ok b := by
  cases r with
  | error e => simp [bind, Except.bind]
  | ok a => simp [bind, Except.bind]

theorem exists_error_of_isOk {ε α : Type} {r : Except ε α} (h : r.isOk = false) :
    ∃ e, r = .error e := by
  cases r with
  | error e => exact ⟨e, rfl⟩
  | ok a => cases h

end Caret

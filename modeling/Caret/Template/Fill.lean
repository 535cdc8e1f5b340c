import Caret.Template.Basic
import Caret.Template.Write
import Caret.Value.Dictionary

/-!
# Filling templates

Conversions take arguments in order, each argument once. Where the arguments are one dictionary, a
conversion with a key takes the entry of the key, and one without takes the dictionary. The first
fault in the order of the template is reported, and only at its end that arguments are left over.
-/

namespace Caret

/-- The arguments still to be taken, and the dictionary that keys are looked up in. -/
structure Supply where
  entries : Option (List (Value × Value))
  rest : List Value

namespace Supply

def ofItems (items : List Value) : Supply := ⟨none, items⟩

def ofEntries (entries : List (Value × Value)) : Supply := ⟨some entries, [.dictionary entries]⟩

def take (s : Supply) : Except Fault (Value × Supply) :=
  match s.rest with
  | [] => .error (.template .missingArguments)
  | v :: rest => .ok (v, ⟨s.entries, rest⟩)

/-- The supply for the rest of a conversion: a key leaves nothing but its entry. -/
def select (s : Supply) : Option ConversionKey → Except Fault Supply
  | none => .ok s
  | some key =>
    match s.entries, key with
    | none, _ => .error (.template .noDictionary)
    | some _, .unfinished => .error (.template .unfinishedKey)
    | some entries, .named name =>
      (Value.lookUp entries (.text name)).map fun v => ⟨some entries, [v]⟩

/-- Takes an argument that is to be a width or a precision. -/
def takeAmount (s : Supply) (limit : Int) (great : TemplateFault) :
    Except Fault (Int × Supply) := do
  let (v, s) ← s.take
  match v.integer? with
  | none => .error (.template .notAmount)
  | some n => if n < -limit - 1 ∨ limit < n then .error (.template great) else .ok (n, s)

def widthLimit : Nat := 9223372036854775807

/-- A width below zero moves the text to the left. -/
def width (s : Supply) : Option ConversionAmount → Except Fault (Int × Supply)
  | none => .ok (0, s)
  | some (.digits n) => if widthLimit < n then .error (.template .greatWidth) else .ok (n, s)
  | some .argument => s.takeAmount widthLimit .greatWidthArgument

def precisionLimit : Nat := 2147483647

def precision (s : Supply) : Option ConversionAmount → Except Fault (Option Nat × Supply)
  | none => .ok (none, s)
  | some (.digits n) =>
    if precisionLimit < n then .error (.template .greatPrecision) else .ok (some n, s)
  | some .argument =>
    (s.takeAmount precisionLimit .greatPrecisionArgument).map fun p => (some p.1.toNat, p.2)

end Supply

namespace Conversion

/-- The width that an amount asks for, whatever its sign. The least amount of all asks for none. -/
def widthOf (amount : Int) : Nat :=
  if amount.natAbs ≤ Supply.widthLimit then amount.natAbs else 0

/-- A width that no memory holds is a fault only when the argument can be written. -/
def fill (c : Conversion) (s : Supply) : Except Fault (Text × Supply) := do
  let s ← s.select c.key
  let (width, s) ← s.width c.width
  let (precision, s) ← s.precision c.precision
  match c.code with
  | none => .error (.template .unfinishedConversion)
  | some code => do
    let (v, s) ← s.take
    let left := c.flags.contains (CodePoint.ofChar '-') || decide (width < 0)
    let wide := decide (Text.lengthLimit ≤ widthOf width)
    let style : WriteStyle := ⟨c.flags, left, if wide then 0 else widthOf width, precision⟩
    let t ← style.write code c.offset v
    if wide then .error .outOfMemory else pure (t, s)

end Conversion

namespace Template

def fillFrom (s : Supply) : Template → Except Fault (Text × Supply)
  | [] => .ok ([], s)
  | .literal t :: ps => (fillFrom s ps).map fun p => (t ++ p.1, p.2)
  | .conversion c :: ps => do
    let (t, s) ← c.fill s
    let (u, s) ← fillFrom s ps
    pure (t ++ u, s)

def fill (s : Supply) (template : Template) : Except Fault Text := do
  let (t, left) ← fillFrom s template
  if left.entries.isNone && !left.rest.isEmpty then .error (.template .unusedArguments) else pure t

end Template

end Caret

import Caret.Value.Display

/-!
# Faults of templates

Every reason for which a template cannot be filled, with the text that reports it.
-/

namespace Caret

inductive TemplateFault where
  /-- The arguments outnumber the conversions. -/
  | unusedArguments
  | missingArguments
  /-- The template ends within a conversion. -/
  | unfinishedConversion
  | unfinishedKey
  /-- A key is asked for where the arguments are no dictionary. -/
  | noDictionary
  | unknownConversion (code : CodePoint) (offset : Nat)
  /-- A width or a precision is to be an argument that is no integer. -/
  | notAmount
  | greatWidth
  | greatPrecision
  | greatWidthArgument
  | greatPrecisionArgument
  /-- More digits are asked for than an integer can be filled up to. -/
  | tooManyDigits
  | notNumber (code : CodePoint) (value : Value)
  | notInteger (code : CodePoint) (value : Value)
  | notReal (value : Value)
  | notCharacter
  | noSuchCharacter
  | infiniteInteger
  | greatInteger

namespace TemplateFault

/-- A code point that is not shown for itself in a message. -/
def isShown (c : CodePoint) : Bool := decide (31 ≤ c.val) && decide (c.val ≤ 126)

def message : TemplateFault → Text
  | .unusedArguments => text "not all arguments converted during string formatting"
  | .missingArguments => text "not enough arguments for format string"
  | .unfinishedConversion => text "incomplete format"
  | .unfinishedKey => text "incomplete format key"
  | .noDictionary => text "format requires a mapping"
  | .unknownConversion code offset =>
    text "unsupported format character '" ++ [if isShown code then code else '?'] ++
      text "' (0x" ++ Text.inBase 'a' 16 code.val ++ text ") at index " ++ Text.ofNat offset
  | .notAmount => text "* wants int"
  | .greatWidth => text "width too big"
  | .greatPrecision => text "precision too big"
  | .greatWidthArgument => text "Python int too large to convert to C ssize_t"
  | .greatPrecisionArgument => text "Python int too large to convert to C int"
  | .tooManyDigits => text "precision too large"
  | .notNumber code value =>
    text "%" ++ [code] ++ text " format: a real number is required, not " ++ value.kindName
  | .notInteger code value =>
    text "%" ++ [code] ++ text " format: an integer is required, not " ++ value.kindName
  | .notReal value => text "must be real number, not " ++ value.kindName
  | .notCharacter => text "%c requires int or char"
  | .noSuchCharacter => text "%c arg not in range(0x110000)"
  | .infiniteInteger => text "cannot convert float infinity to integer"
  | .greatInteger => text "int too large to convert to float"

end TemplateFault

end Caret

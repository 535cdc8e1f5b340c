import Caret.Double.Basic
import Caret.Text.Basic

/-!
# Values

What a sequence may hold and what a log record may carry: the end marker, text, numbers, collections
of values, and the failure that a record reports. Diagnostics take sequences of any values, so that
a scanner's own tokens can be pointed at; only one-character texts count as characters.
-/

namespace Caret

/-- A line and a column, both counted from one. -/
structure Location where
  line : Int
  column : Int
deriving DecidableEq

inductive Value where
  | null
  | bool (b : Bool)
  | int (n : Int)
  | double (x : Double)
  | text (t : Text)
  | list (items : List Value)
  | tuple (items : List Value)
  | dictionary (entries : List (Value × Value))
  | eot
  | location (l : Location)
  /-- A kind of failures. -/
  | failureKind (name : Text)
  | failure (kind message : Text)

instance : Inhabited Value := ⟨.null⟩

namespace Value

def ofCodePoint (c : CodePoint) : Value := .text [c]

/-- The name under which the kind of a value appears in messages. -/
def kindName : Value → Text
  | .null => Caret.text "NoneType"
  | .bool _ => Caret.text "bool"
  | .int _ => Caret.text "int"
  | .double _ => Caret.text "float"
  | .text _ => Caret.text "str"
  | .list _ => Caret.text "list"
  | .tuple _ => Caret.text "tuple"
  | .dictionary _ => Caret.text "dict"
  | .eot => Caret.text "EndOfInput"
  | .location _ => Caret.text "SourceLocation"
  | .failureKind _ => Caret.text "type"
  | .failure kind _ => kind

/-- Zero, nothing and what is empty count as false. -/
def truthy : Value → Bool
  | .null => false
  | .bool b => b
  | .int n => n != 0
  | .double x => !x.isZero
  | .text t => !t.isEmpty
  | .list xs => !xs.isEmpty
  | .tuple xs => !xs.isEmpty
  | .dictionary es => !es.isEmpty
  | .eot => true
  | .location _ => true
  | .failureKind _ => true
  | .failure .. => true

def isEot : Value → Bool
  | .eot => true
  | _ => false

@[simp] theorem isEot_iff (v : Value) : v.isEot = true ↔ v = .eot := by
  cases v <;> simp [isEot]

end Value

end Caret

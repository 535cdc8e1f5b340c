import Caret.Index
import Caret.Lines.Reads
import Caret.Pointer
import Caret.Value.Dictionary
import Caret.View

/-!
# Operands

What the steps of a program work on: sources, windows and plain values. What can be asked of an
operand depends on its kind. Sources, windows, lists, tuples and texts have elements in order, and
the elements of a dictionary are its keys; other values have none, and cannot be asked for any. The
elements of sources and windows are met by the looks of their views. `joined` is `unslice`, `list`
is `unslice_vec`, and `owned` is `to_owned`.
-/

namespace Caret

/-- What a step leaves behind. -/
inductive Operand where
  | source (s : Source)
  | window (w : Window)
  | value (v : Value)

namespace Operand

def kindName : Operand → Text
  | .source _ => text "CharSequence"
  | .window _ => text "SequenceView"
  | .value v => v.kindName

/-! ### Comparing -/

/-- A source equals sources only; a window also equals the tuple of its elements. -/
def same : Operand → Operand → Bool
  | .source s, .source t => s.same t
  | .window v, .window w => v.same w
  | .window w, .value (.tuple xs) => Value.sameItems w.toList xs
  | .value (.tuple xs), .window w => Value.sameItems xs w.toList
  | .value v, .value w => v.same w
  | _, _ => false

/-- Sources and windows are filed like the tuple of their elements. -/
def filed : Operand → Except Fault HashKey
  | .source s => (Value.tuple s.items).filed
  | .window w => (Value.tuple w.toList).filed
  | .value v => v.filed

/-! ### Elements -/

def elements? : Operand → Option (List Value)
  | .source s => some s.items
  | .window w => some w.toList
  | .value (.text t) => some (t.map Value.ofCodePoint)
  | .value (.list xs) => some xs
  | .value (.tuple xs) => some xs
  | .value (.dictionary es) => some (es.map (·.1))
  | .value _ => none

/-- The elements, which have to be there for the value to be able to do something. -/
def valuesFor (ability : Ability) (v : Value) : Except Fault (List Value) :=
  match (value v).elements? with
  | some xs => .ok xs
  | none => .error (.unable v.kindName ability)

/-- The elements that a loop meets. -/
def list : Operand → Except Fault (List Value)
  | .source s => s.view.list
  | .window w => w.view.list
  | .value v => valuesFor .iteration v

def length : Operand → Except Fault Nat
  | .source s => .ok s.view.length
  | .window w => .ok w.view.length
  | .value v => (valuesFor .length v).map List.length

def reversed : Operand → Except Fault (List Value)
  | .source s => s.view.reversed
  | .window w => w.view.reversed
  | .value v => (valuesFor .reversal v).map List.reverse

@[simp] theorem list_source (s : Source) : (source s).list = .ok s.items := s.view_shows.list_eq

@[simp] theorem list_window (w : Window) : (window w).list = .ok w.toList := w.view_shows.list_eq

def attributeFault (o : Operand) (name : String) : Fault :=
  .unable o.kindName (.attribute (text name))

def get (index : Int) : Operand → Except Fault Value
  | .source s => s.get index
  | .window w => w.get index
  | .value (.text t) => (itemAt (text "string") t index).map Value.ofCodePoint
  | .value (.list xs) => itemAt (text "list") xs index
  | .value (.tuple xs) => itemAt (text "tuple") xs index
  | .value (.dictionary es) => Value.lookUp es (.int index)
  | .value v => .error (.unable v.kindName .indexing)

/-- Only sources and windows have windows; the parts of other sequences are copies, and may be taken
with any step. -/
def slice (cut : Slice) : Operand → Except Fault Operand
  | .source s => (s.slice cut).map .window
  | .window w => (w.slice cut).map .window
  | .value (.text t) => (cut.select t).map fun u => .value (.text u)
  | .value (.list xs) => (cut.select xs).map fun ys => .value (.list ys)
  | .value (.tuple xs) => (cut.select xs).map fun ys => .value (.tuple ys)
  | .value (.dictionary _) => .error (.unhashable (text "slice"))
  | .value v => .error (.unable v.kindName .indexing)

/-! ### Texts -/

/-- The text of a source. -/
def toText : Operand → Except Fault Text
  | .source s => s.toText
  | o => .error (o.attributeFault "text")

/-- The elements as one text. -/
def joined : Operand → Except Fault Text
  | .value (.text t) => .ok t
  | o => o.list.bind (joinTexts .notCharacter 0)

theorem joined_window (w : Window) : (window w).joined = joinTexts .notCharacter 0 w.toList := by
  show (window w).list.bind (joinTexts .notCharacter 0) = _
  rw [list_window]
  rfl

def quoted : Operand → Except Fault Text
  | .source s => s.toText.map fun t => text "CharSequence(" ++ Text.quoted t ++ text ")"
  | .window w => w.view.list.map fun xs =>
    text "SequenceView(" ++ (Value.list xs).quoted ++ text ")"
  | .value v => .ok v.quoted

/-! ### Copies -/

def items : Operand → Except Fault (List Value)
  | .source s => .ok s.items
  | o => .error (o.attributeFault "items")

def owned : Operand → Except Fault (List Value)
  | .window w => .ok w.toList
  | o => .error (o.attributeFault "to_owned")

end Operand

end Caret

import Caret.CharClass
import Caret.Sequence

/-!
# Lines and columns

A line ends at a line feed, at a return, or at a return and the line feed after it, which together
are one break. Lines and columns are counted from one, and a break belongs to the line that it ends.
The functions of this file take an index inside the sequence; `indexIn` tells whether it is.
`column` is `get_col`, `displayColumn` is `display_column`, `lineStart` and `lineStop` are
`line_bounds`, `lineNumber` is `get_line_number`, and `locate` has its name.
-/

namespace Caret

/-- The index as an offset into the sequence. Indices below zero are outside. -/
def indexIn (xs : List Value) (index : Int) : Except Fault Nat :=
  if 0 ≤ index ∧ index < xs.length then .ok index.toNat else .error (.outside index xs.length)

theorem indexIn_natCast {xs : List Value} {i : Nat} (h : i < xs.length) :
    indexIn xs i = .ok i := by simp [indexIn, h]

/-- One more than the number of elements between the index and the break before it. -/
def column (xs : List Value) (i : Nat) : Nat :=
  ((xs.take i).reverse.takeWhile fun v => !v.isLineBreak).length + 1

theorem column_pos (xs : List Value) (i : Nat) : 0 < column xs i := Nat.succ_pos _

theorem column_le (xs : List Value) (i : Nat) : column xs i ≤ i + 1 := by
  have h : ((xs.take i).reverse.takeWhile fun v => !v.isLineBreak).length ≤
      (xs.take i).reverse.length := (List.takeWhile_sublist _).length_le
  simp only [List.length_reverse, List.length_take] at h
  unfold column
  omega

/-- The index holds the line feed of a return and line feed pair. -/
def isPairTail (xs : List Value) : Nat → Bool
  | 0 => false
  | i + 1 => xs[i + 1]?.any Value.isLineFeed && xs[i]?.any Value.isReturn

/-- Where to look for the line of an index: both parts of a pair stand where its return does. -/
def anchor (xs : List Value) (i : Nat) : Nat := if isPairTail xs i then i - 1 else i

/-- The column shown to a reader, in which the line feed of a pair follows its return. -/
def displayColumn (xs : List Value) (i : Nat) : Nat :=
  if isPairTail xs i then column xs (i - 1) + 1 else column xs i

def lineStart (xs : List Value) (i : Nat) : Nat := anchor xs i + 1 - column xs (anchor xs i)

/-- The offset of the break or the end marker that ends the line, or the end of the sequence. -/
def lineStop (xs : List Value) (i : Nat) : Nat :=
  anchor xs i +
    ((xs.drop (anchor xs i)).takeWhile fun v => !v.isEot && !v.isLineBreak).length

/-- An element followed by `rest` is the last of its line. -/
def endsLine (v : Value) (rest : List Value) : Bool :=
  v.isLineFeed || v.isReturn && !rest.head?.any Value.isLineFeed

/-- The number of lines that end among the first elements of a list. -/
def linesEnded : Nat → List Value → Nat
  | 0, _ => 0
  | _ + 1, [] => 0
  | n + 1, v :: rest => (if endsLine v rest then 1 else 0) + linesEnded n rest

def lineNumber (xs : List Value) (i : Nat) : Nat := linesEnded (lineStart xs i) xs + 1

def locate (xs : List Value) (i : Nat) : Location := ⟨lineNumber xs i, displayColumn xs i⟩

/-- The parts of a location cannot be assigned. -/
def Location.assignLine (_ : Location) (_ : Value) : Except Fault Location :=
  .error (.readOnly (text "line"))

/-! ### Questions about an index -/

inductive Query where
  | inside
  | column
  | displayColumn
  | lineNumber
  | lineBounds
  | location

def Query.answer (q : Query) (xs : List Value) (index : Int) : Except Fault Value := do
  let i ← indexIn xs index
  match q with
  | .inside => pure .null
  | .column => pure (.int (Caret.column xs i))
  | .displayColumn => pure (.int (Caret.displayColumn xs i))
  | .lineNumber => pure (.int (Caret.lineNumber xs i))
  | .lineBounds => pure (.tuple [.int (lineStart xs i), .int (lineStop xs i)])
  | .location => pure (.location (locate xs i))

section Answers

variable {xs : List Value} {i : Nat} (hi : i < xs.length)
include hi

theorem Query.answer_column : Query.column.answer xs i = .ok (.int (Caret.column xs i)) := by
  rw [Query.answer, indexIn_natCast hi]
  rfl

theorem Query.answer_lineNumber :
    Query.lineNumber.answer xs i = .ok (.int (Caret.lineNumber xs i)) := by
  rw [Query.answer, indexIn_natCast hi]
  rfl

theorem Query.answer_displayColumn :
    Query.displayColumn.answer xs i = .ok (.int (Caret.displayColumn xs i)) := by
  rw [Query.answer, indexIn_natCast hi]
  rfl

theorem Query.answer_lineBounds :
    Query.lineBounds.answer xs i = .ok (.tuple [.int (lineStart xs i), .int (lineStop xs i)]) := by
  rw [Query.answer, indexIn_natCast hi]
  rfl

theorem Query.answer_location : Query.location.answer xs i = .ok (.location (locate xs i)) := by
  rw [Query.answer, indexIn_natCast hi]
  rfl

end Answers

end Caret

import Caret.Lines

/-!
# Walking forward

The location of an index by a walk from the start of the sequence: each element moves one column to
the right, or to the start of the next line when it ends its line. `locate` finds the same location
by looking around the index.
-/

namespace Caret

/-- The location of what follows an element, the elements after it being `rest`. -/
def Location.next (l : Location) (v : Value) (rest : List Value) : Location :=
  if endsLine v rest then ⟨l.line + 1, 1⟩ else ⟨l.line, l.column + 1⟩

/-- The location reached after some elements. At the end of the list there is nothing to walk to. -/
def walkFrom (l : Location) : Nat → List Value → Location
  | 0, _ => l
  | _ + 1, [] => l
  | n + 1, v :: rest => walkFrom (l.next v rest) n rest

def walk (xs : List Value) (i : Nat) : Location := walkFrom ⟨1, 1⟩ i xs

@[simp] theorem walk_zero (xs : List Value) : walk xs 0 = ⟨1, 1⟩ := by cases xs <;> rfl

theorem walkFrom_succ {xs : List Value} {i : Nat} {v : Value} {rest : List Value} (l : Location)
    (h : xs.drop i = v :: rest) : walkFrom l (i + 1) xs = (walkFrom l i xs).next v rest := by
  induction xs generalizing i l with
  | nil => simp at h
  | cons x xs ih =>
    cases i with
    | zero =>
      obtain ⟨rfl, rfl⟩ : x = v ∧ xs = rest := by simpa using h
      cases xs <;> rfl
    | succ i =>
      rw [List.drop_succ_cons] at h
      rw [walkFrom, ih _ h]
      rfl

end Caret

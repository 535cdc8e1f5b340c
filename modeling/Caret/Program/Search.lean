import Caret.Program.Operand

/-!
# Searching operands

An element is sought among the elements of a sequence, and a text among the parts of a text. A source
knows at once if an item is among its items; a window looks for it, and both look for the number of
times that an item occurs and for its first position. Main statement: a position that is found in a
list lies in the range of the search and holds the element.
-/

namespace Caret

/-! ### Ranges -/

/-- Where a search is to look. Bounds below zero count from the end. -/
structure SearchRange where
  start : Option Int
  stop : Option Int

namespace SearchRange

/-- A start before the sequence is its beginning. -/
def lower (r : SearchRange) (n : Nat) : Nat :=
  match r.start with
  | none => 0
  | some b => if b < 0 then (b + n).toNat else b.toNat

def upper (r : SearchRange) (n : Nat) : Nat :=
  match r.stop with
  | none => n
  | some b => if b < 0 then (b + n).toNat else min b.toNat n

theorem upper_le (r : SearchRange) (n : Nat) : r.upper n ≤ n := by
  unfold upper
  split
  · exact Nat.le_refl n
  · split <;> omega

/-- The elements of a list in the range. -/
def part {α : Type} (r : SearchRange) (xs : List α) : List α :=
  (xs.take (r.upper xs.length)).drop (r.lower xs.length)

end SearchRange

/-- The first position in a range at which an element stands. -/
def position? (xs : List Value) (item : Value) (r : SearchRange) : Option Nat :=
  ((r.part xs).findIdx? (·.same item)).map (r.lower xs.length + ·)

/-- The first offset in a range at which a text stands. The empty text stands everywhere, but a
range that begins after its end has no place for it. -/
def offset? (t part : Text) (r : SearchRange) : Option Nat :=
  if r.upper t.length < r.lower t.length then none
  else (Text.find? part (r.part t)).map (r.lower t.length + ·)

theorem getElem?_position? {xs : List Value} {item : Value} {r : SearchRange} {p : Nat}
    (h : position? xs item r = some p) :
    r.lower xs.length ≤ p ∧ p < r.upper xs.length ∧ xs[p]?.any (·.same item) = true := by
  unfold position? at h
  obtain ⟨k, hk, rfl⟩ := Option.map_eq_some_iff.mp h
  obtain ⟨hlt, hsame, _⟩ := List.findIdx?_eq_some_iff_getElem.mp hk
  simp only [SearchRange.part, List.length_drop, List.length_take] at hlt
  have hle := r.upper_le xs.length
  refine ⟨Nat.le_add_right _ _, by omega, ?_⟩
  simp only [SearchRange.part, List.getElem_drop, List.getElem_take] at hsame
  rw [List.getElem?_eq_getElem (by omega)]
  simpa using hsame

namespace Operand

def contains (item : Value) : Operand → Except Fault Bool
  | .value (.text t) =>
    match item with
    | .text part => .ok (Text.find? part t).isSome
    | v => .error (.notTextPart v)
  | .value (.dictionary es) => item.filed.map fun _ => (Value.valueAt? item es).isSome
  | .source s => .ok (item.isIn s.items)
  | .window w => w.view.contains item
  | .value v => (valuesFor .membership v).map item.isIn

def count (item : Value) : Operand → Except Fault Nat
  | .value (.text t) =>
    match item with
    | .text part => .ok (Text.count part t)
    | v => .error (.notTextToCount v)
  | .source s => s.view.count item
  | .window w => w.view.count item
  | .value (.list xs) => .ok (item.countIn xs)
  | .value (.tuple xs) => .ok (item.countIn xs)
  | o => .error (o.attributeFault "count")

/-- What was found, or the fault that nothing was. -/
def foundOr (fault : Fault) : Option Nat → Except Fault Nat
  | some p => .ok p
  | none => .error fault

def position (item : Value) (r : SearchRange) : Operand → Except Fault Nat
  | .value (.text t) =>
    match item with
    | .text part => foundOr .notInText (offset? t part r)
    | v => .error (.notTextToCount v)
  | .source s => s.view.position item r.start r.stop
  | .window w => w.view.position item r.start r.stop
  | .value (.list xs) => foundOr (.notInList item) (position? xs item r)
  | .value (.tuple xs) => foundOr .notInTuple (position? xs item r)
  | o => .error (o.attributeFault "index")

end Operand

end Caret

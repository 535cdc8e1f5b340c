import Caret.Fault

/-!
# Slices

A slice names a part of a sequence by two bounds and a step, each of which may be left open. Bounds
below zero count from the end, and bounds outside the sequence are moved to its ends. Main
statements: the bounds of a slice lie in the sequence, in order.
-/

namespace Caret

structure Slice where
  start : Option Int
  stop : Option Int
  step : Option Int

namespace Slice

def between (start stop : Option Int) : Slice := ⟨start, stop, none⟩

/-- The place of a bound in a sequence of length `n`. -/
def place (n : Nat) (bound : Int) : Nat :=
  if bound < 0 then (bound + n).toNat else min bound.toNat n

theorem place_le (n : Nat) (bound : Int) : place n bound ≤ n := by
  unfold place
  split <;> omega

def lower (s : Slice) (n : Nat) : Nat := (s.start.map (place n)).getD 0

/-- The end of the slice; a slice whose bounds are out of order is empty at its start. -/
def upper (s : Slice) (n : Nat) : Nat := max (s.lower n) ((s.stop.map (place n)).getD n)

theorem lower_le_upper (s : Slice) (n : Nat) : s.lower n ≤ s.upper n := Nat.le_max_left ..

theorem lower_le (s : Slice) (n : Nat) : s.lower n ≤ n := by
  unfold lower
  cases s.start with
  | none => exact Nat.zero_le n
  | some b => exact place_le n b

theorem upper_le (s : Slice) (n : Nat) : s.upper n ≤ n := by
  unfold upper
  refine Nat.max_le.mpr ⟨s.lower_le n, ?_⟩
  cases s.stop with
  | none => exact Nat.le_refl n
  | some b => exact place_le n b

/-- The part of a list that the slice names, its step left aside. -/
def part {α : Type} (s : Slice) (xs : List α) : List α :=
  (xs.take (s.upper xs.length)).drop (s.lower xs.length)

theorem place_natCast {n b : Nat} (h : b ≤ n) : place n b = b := by
  rw [place, if_neg (by omega), Int.toNat_natCast, Nat.min_eq_left h]

theorem lower_between {a b n : Nat} (hab : a ≤ b) (hb : b ≤ n) :
    (between (some a) (some b)).lower n = a :=
  place_natCast (Nat.le_trans hab hb)

theorem upper_between {a b n : Nat} (hab : a ≤ b) (hb : b ≤ n) :
    (between (some a) (some b)).upper n = b := by
  rw [upper, lower_between hab hb]
  show max a (place n b) = b
  rw [place_natCast hb, Nat.max_eq_right hab]

theorem part_between {α : Type} (xs : List α) {a b : Nat} (hab : a ≤ b) (hb : b ≤ xs.length) :
    (between (some a) (some b)).part xs = (xs.take b).drop a := by
  rw [part, lower_between hab hb, upper_between hab hb]

/-- Only slices of consecutive elements can be cut; `stepped` is the fault of the others. -/
def checkStep (s : Slice) (stepped : Fault) : Except Fault Unit :=
  match s.step with
  | none => .ok ()
  | some 0 => .error .zeroStep
  | some 1 => .ok ()
  | some _ => .error stepped

/-! ### Steps -/

/-- Leaves out `skip` elements, and `gap` elements after each one that is taken. -/
def takeEvery {α : Type} (gap : Nat) : Nat → List α → List α
  | _, [] => []
  | 0, x :: xs => x :: takeEvery gap gap xs
  | skip + 1, _ :: xs => takeEvery gap skip xs

theorem takeEvery_zero {α : Type} (xs : List α) : takeEvery 0 0 xs = xs := by
  induction xs with
  | nil => rfl
  | cons x xs ih => rw [takeEvery, ih]

/-- The number of elements up to the one at a bound in a sequence of length `n`. -/
def through (n : Nat) (bound : Int) : Nat :=
  if bound < 0 then (bound + n + 1).toNat else min (bound + 1).toNat n

/-- The part of a list from the start back to the stop, which is left out. -/
def backwards {α : Type} (s : Slice) (xs : List α) : List α :=
  ((xs.take ((s.start.map (through xs.length)).getD xs.length)).drop
    ((s.stop.map (through xs.length)).getD 0)).reverse

/-- The elements that the slice names, with a step below zero from the end to the front. -/
def select {α : Type} (s : Slice) (xs : List α) : Except Fault (List α) :=
  match s.step.getD 1 with
  | .ofNat 0 => .error .zeroStep
  | .ofNat (gap + 1) => .ok (takeEvery gap 0 (s.part xs))
  | .negSucc gap => .ok (takeEvery gap 0 (s.backwards xs))

/-- Without a step the slice names the whole part between its bounds. -/
theorem select_between {α : Type} (start stop : Option Int) (xs : List α) :
    (between start stop).select xs = .ok ((between start stop).part xs) :=
  congrArg Except.ok (takeEvery_zero _)

end Slice

end Caret

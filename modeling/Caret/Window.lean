import Caret.Slice
import Caret.Value.Equality

/-!
# Windows

A window shows the elements of a list from one offset up to another. Cutting a window gives a window
on the same list, with offsets into that list. A window is a `SequenceView`.
-/

namespace Caret

structure Window where
  items : List Value
  start : Nat
  stop : Nat
  start_le_stop : start ≤ stop
  stop_le_length : stop ≤ items.length

namespace Window

/-- The window between two bounds, which have to lie in the list and in order. -/
def ofBounds (items : List Value) (start stop : Int) : Except Fault Window :=
  if h : 0 ≤ start ∧ start ≤ stop ∧ stop ≤ items.length then
    .ok ⟨items, start.toNat, stop.toNat, by omega, by omega⟩
  else
    .error (.windowBounds start stop items.length)

theorem ofBounds_natCast {items : List Value} {a b : Nat} (hab : a ≤ b) (hb : b ≤ items.length) :
    ofBounds items a b = .ok ⟨items, a, b, hab, hb⟩ := by
  rw [ofBounds, dif_pos ⟨by omega, by omega, by omega⟩]
  rfl

def length (w : Window) : Nat := w.stop - w.start

/-- The elements in sight. -/
def toList (w : Window) : List Value := (w.items.take w.stop).drop w.start

@[simp] theorem length_toList (w : Window) : w.toList.length = w.length := by
  have := w.stop_le_length
  simp [toList, length, Nat.min_eq_left this]

def slice (w : Window) (s : Slice) : Except Fault Window := do
  s.checkStep .steppedWindow
  ofBounds w.items (w.start + s.lower w.length : Nat) (w.start + s.upper w.length : Nat)

/-- Indices below zero count from the end. -/
def get (w : Window) (index : Int) : Except Fault Value :=
  let i := if index < 0 then index + w.length else index
  if 0 ≤ i ∧ i < w.length then
    match w.items[w.start + i.toNat]? with
    | some v => .ok v
    | none => .error (.windowIndex i)
  else .error (.windowIndex i)

def same (v w : Window) : Bool := Value.sameItems v.toList w.toList

/-! ### Indices -/

variable (w : Window)

theorem getElem?_toList {i : Nat} (h : i < w.toList.length) :
    w.items[w.start + i]? = some w.toList[i] := by
  rw [← List.getElem?_eq_getElem h, toList, List.getElem?_drop, List.getElem?_take_of_lt]
  have hlt : i < w.stop - w.start := by simpa [length] using h
  omega

theorem get_natCast {i : Nat} (h : i < w.toList.length) : w.get i = .ok w.toList[i] := by
  have hpos : ¬ (i : Int) < 0 := by omega
  have hlt : i < w.length := by simpa using h
  simp [get, hpos, hlt, w.getElem?_toList h]

theorem get_sub_length {i : Nat} (h : i < w.toList.length) :
    w.get ((i : Int) - w.toList.length) = .ok w.toList[i] := by
  have hlt : i < w.length := by simpa using h
  have hneg : (i : Int) - w.length < 0 := by omega
  have hback : (i : Int) - w.length + w.length = i := by omega
  simp [get, hneg, hback, hlt, w.getElem?_toList h]

theorem get_outside {k : Int} (h : k < -(w.toList.length : Int) ∨ (w.toList.length : Int) ≤ k) :
    ∃ f, w.get k = .error f ∧ f.kind = .index := by
  rw [length_toList] at h
  unfold get
  by_cases hn : k < 0
  · simp only [if_pos hn]
    exact ⟨_, if_neg (by omega), rfl⟩
  · simp only [if_neg hn]
    exact ⟨_, if_neg (by omega), rfl⟩

end Window

end Caret

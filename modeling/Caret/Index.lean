import Caret.Fault

/-!
# Indices

An index names an item of a list, and an index below zero counts from the end. An index that names
no item is refused, and a great one for its size, which no list in memory reaches. Main statement:
the indices of items are those from minus the length of the list up to its length.
-/

namespace Caret

/-- The first number that is too great for an index. -/
def indexLimit : Nat := 9223372036854775808

/-- The item at an index; `kind` is the name of the list in messages. -/
def itemAt {α : Type} (kind : Text) (xs : List α) (index : Int) : Except Fault α :=
  let i := if index < 0 then index + xs.length else index
  if h : 0 ≤ i ∧ i < xs.length then .ok (xs.get ⟨i.toNat, by omega⟩)
  else if index < -(indexLimit : Int) ∨ (indexLimit : Int) ≤ index then .error .greatIndex
  else .error (.itemIndex kind)

theorem itemAt_natCast {α : Type} (kind : Text) (xs : List α) (i : Nat) (h : i < xs.length) :
    itemAt kind xs i = .ok xs[i] := by
  have hpos : ¬ (i : Int) < 0 := by omega
  simp [itemAt, hpos, h]

/-- Counting from the end reaches every item, too. -/
theorem itemAt_sub_length {α : Type} (kind : Text) (xs : List α) (i : Nat) (h : i < xs.length) :
    itemAt kind xs ((i : Int) - xs.length) = .ok xs[i] := by
  have hneg : (i : Int) - xs.length < 0 := by omega
  have hback : (i : Int) - xs.length + xs.length = i := by omega
  simp [itemAt, hneg, hback, h]

theorem itemAt_outside {α : Type} (kind : Text) (xs : List α) (index : Int)
    (h : index < -(xs.length : Int) ∨ (xs.length : Int) ≤ index) :
    itemAt kind xs index = .error .greatIndex ∨
      itemAt kind xs index = .error (.itemIndex kind) := by
  unfold itemAt
  by_cases hn : index < 0
  · simp only [if_pos hn]
    rw [dif_neg (by omega)]
    split
    · exact .inl rfl
    · exact .inr rfl
  · simp only [if_neg hn]
    rw [dif_neg (by omega)]
    split
    · exact .inl rfl
    · exact .inr rfl

theorem isOk_itemAt_iff {α : Type} (kind : Text) (xs : List α) (index : Int) :
    (itemAt kind xs index).isOk = true ↔ -(xs.length : Int) ≤ index ∧ index < xs.length := by
  constructor
  · intro hok
    by_cases hin : -(xs.length : Int) ≤ index ∧ index < xs.length
    · exact hin
    · rcases itemAt_outside kind xs index (by omega) with h | h
      · rw [h] at hok
        cases hok
      · rw [h] at hok
        cases hok
  · rintro ⟨hlow, hhigh⟩
    by_cases hn : index < 0
    · obtain ⟨i, hi⟩ : ∃ i : Nat, index = (i : Int) - xs.length :=
        ⟨(index + xs.length).toNat, by omega⟩
      rw [hi, itemAt_sub_length kind xs i (by omega)]
      rfl
    · obtain ⟨i, rfl⟩ : ∃ i : Nat, index = i := ⟨index.toNat, by omega⟩
      rw [itemAt_natCast kind xs i (by omega)]
      rfl

end Caret

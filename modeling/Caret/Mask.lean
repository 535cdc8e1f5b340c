import Caret.CharClass
import Caret.Index

/-!
# Masking

A masked sequence has one visible column for each element, so that a column counted in the sequence
can be pointed at in the masked text: printable ASCII characters stay, all else becomes a dot.
`mask` is `munge_chars`, and `repeatText` is `repeat_char`.
-/

namespace Caret

def Value.mask (v : Value) : CodePoint :=
  match v.char? with
  | some c => if c.isPrint then c else CodePoint.ofChar '.'
  | none => CodePoint.ofChar '.'

theorem Value.mask_ofCodePoint {c : CodePoint} (h : c.isPrint = true) :
    (Value.ofCodePoint c).mask = c := if_pos h

theorem Value.mask_eq_dot {v : Value} (h : v.isPrint = false) : v.mask = CodePoint.ofChar '.' := by
  rw [Value.isPrint, Value.isChar] at h
  rw [Value.mask]
  cases hc : v.char? with
  | none => rfl
  | some c =>
    rw [hc, Option.any_some] at h
    exact if_neg (by rw [h]; decide)

theorem Value.isPrint_mask (v : Value) : v.mask.isPrint = true := by
  rw [Value.mask]
  cases v.char? with
  | none => rfl
  | some c =>
    by_cases h : c.isPrint = true
    · simp [h]
    · simp [h]
      rfl

def mask (xs : List Value) : Text := xs.map Value.mask

@[simp] theorem length_mask (xs : List Value) : (mask xs).length = xs.length := by simp [mask]

theorem isPrint_of_mem_mask {xs : List Value} {c : CodePoint} (h : c ∈ mask xs) :
    c.isPrint = true := by
  obtain ⟨v, -, rfl⟩ := List.mem_map.mp h
  exact v.isPrint_mask

def Text.mask (t : Text) : Text := Caret.mask (t.map Value.ofCodePoint)

/-- A text is left as it is if there is nothing to hide in it. -/
theorem Text.mask_eq_self_iff {t : Text} : t.mask = t ↔ ∀ c ∈ t, c.isPrint = true := by
  constructor
  · intro h c hc
    rw [← h] at hc
    exact isPrint_of_mem_mask hc
  · intro h
    have hkeep : t.map (Value.mask ∘ Value.ofCodePoint) = t.map id :=
      List.map_congr_left fun c hc => Value.mask_ofCodePoint (h c hc)
    rw [mask, Caret.mask, List.map_map, hkeep, List.map_id]

theorem mask_mask (xs : List Value) : Text.mask (mask xs) = mask xs :=
  Text.mask_eq_self_iff.mpr fun _ hc => isPrint_of_mem_mask hc

/-! ### Copies -/

/-- A text that many times over. -/
def copies (t : Text) (count : Int) : Except Fault Text :=
  if count < 0 then .error (.negativeCount count)
  else if t.isEmpty then .ok []
  else .ok (List.replicate count.toNat t).flatten

theorem copies_natCast (c : CodePoint) (n : Nat) : copies [c] n = .ok (List.replicate n c) := by
  rw [copies, if_neg (by omega), List.isEmpty_cons, if_neg Bool.false_ne_true,
    Int.toNat_natCast, List.flatten_replicate_singleton]

/-- Copies stay shorter than an index can tell, and than memory can hold. -/
def checkCopies (t : Text) (count : Int) : Except Fault Unit :=
  if (indexLimit : Int) ≤ count then .error .greatCount
  else if (indexLimit : Int) ≤ t.length * count then .error .longText
  else if (Text.lengthLimit : Int) ≤ t.length * count then .error .outOfMemory
  else .ok ()

/-- Copies in a number that is given from outside, and may be any. -/
def repeatText (t : Text) (count : Int) : Except Fault Text := do
  checkCopies t count
  copies t count

end Caret

import Caret.Proofs.PointerAlignment

/-!
# When a display is refused

Three parts of a display can be refused: a mark that takes no visible column, an index outside the
sequence, and a headline that is no text. They are looked at in this order, and nothing else can go
wrong. Main statement: the faults of a display, each with the condition under which it is met.
-/

namespace Caret

/-! ### Marks -/

/-- The value is one character that takes a visible column. -/
def VisibleMark (mark : Value) : Prop :=
  ∃ p : CodePoint, mark = .text [p] ∧ p.isBetween '!' '~' = true

instance (mark : Value) : Decidable (VisibleMark mark) :=
  decidable_of_iff (∃ p ∈ mark.char?, p.isBetween '!' '~' = true) <|
    exists_congr fun _ => and_congr_left' Value.char?_eq_some_iff

/-- Of the printable characters only the blank is invisible. -/
theorem CodePoint.isBetween_iff_visible {p : CodePoint} :
    p.isBetween '!' '~' = true ↔ p.isPrint = true ∧ p ≠ CodePoint.ofChar ' ' := by
  constructor
  · intro hp
    refine ⟨CodePoint.isPrint_of_isBetween hp, ?_⟩
    rintro rfl
    exact absurd hp (by decide)
  · rintro ⟨hprint, hblank⟩
    obtain ⟨hlow, hhigh⟩ := CodePoint.isPrint_iff.mp hprint
    have hne : p.val ≠ 32 := fun h => hblank (CodePoint.ext h)
    have hle : 33 ≤ p.val := by omega
    simp [CodePoint.isBetween, hle, hhigh]

theorem checkMark_eq_ok_iff {mark : Value} {p : CodePoint} :
    checkMark mark = .ok p ↔ mark = .text [p] ∧ p.isBetween '!' '~' = true := by
  constructor
  · intro h
    unfold checkMark at h
    split at h
    · next c hc =>
      split at h
      · next hvisible =>
        obtain rfl := Except.ok.inj h
        obtain ⟨hprint, hblank⟩ := Bool.and_eq_true_iff.mp hvisible
        exact ⟨Value.char?_eq_some_iff.mp hc,
          CodePoint.isBetween_iff_visible.mpr ⟨hprint, bne_iff_ne.mp hblank⟩⟩
      · cases h
    · cases h
  · rintro ⟨rfl, hp⟩
    exact checkMark_of_isBetween hp

theorem VisibleMark.exists_ok {mark : Value} (h : VisibleMark mark) :
    ∃ p, checkMark mark = .ok p := by
  obtain ⟨p, hp⟩ := h
  exact ⟨p, checkMark_eq_ok_iff.mpr hp⟩

theorem eq_of_checkMark_error {mark : Value} {f : Fault} (h : checkMark mark = .error f) :
    f = .badPointer mark := by
  unfold checkMark at h
  split at h
  · split at h
    · cases h
    · exact (Except.error.inj h).symm
  · exact (Except.error.inj h).symm

theorem checkMark_of_not_visible {mark : Value} (h : ¬ VisibleMark mark) :
    checkMark mark = .error (.badPointer mark) := by
  cases hcheck : checkMark mark with
  | ok p => exact absurd ⟨p, checkMark_eq_ok_iff.mp hcheck⟩ h
  | error f => rw [eq_of_checkMark_error hcheck]

/-! ### Indices -/

/-- The index is one of a sequence. -/
def Inside (xs : List Value) (index : Int) : Prop := 0 ≤ index ∧ index < xs.length

instance (xs : List Value) (index : Int) : Decidable (Inside xs index) :=
  inferInstanceAs (Decidable (_ ∧ _))

theorem Inside.exists_nat {xs : List Value} {index : Int} (h : Inside xs index) :
    ∃ i : Nat, index = i ∧ i < xs.length := by
  obtain ⟨hlow, hhigh⟩ := h
  exact ⟨index.toNat, by omega, by omega⟩

theorem indexIn_of_not_inside {xs : List Value} {index : Int} (h : ¬ Inside xs index) :
    indexIn xs index = .error (.outside index xs.length) := if_neg h

/-! ### Headlines -/

theorem withHeadline_of_not_text {headline : Value} (h : ∀ t, headline ≠ .text t) (display : Text) :
    withHeadline headline display =
      if headline.truthy then .error (.notText 0 headline) else .ok display := by
  unfold withHeadline
  split
  · exact absurd rfl (h _)
  · exact absurd rfl (h _)
  · rfl

theorem withHeadline_eq_error_iff {headline : Value} {display : Text} {f : Fault} :
    withHeadline headline display = .error f ↔
      headline.truthy = true ∧ (∀ t, headline ≠ .text t) ∧ f = .notText 0 headline := by
  by_cases htext : ∃ t, headline = .text t
  · obtain ⟨t, rfl⟩ := htext
    rw [withHeadline_text]
    constructor
    · nofun
    · rintro ⟨-, hnone, -⟩
      exact absurd rfl (hnone t)
  · have hnone : ∀ t, headline ≠ .text t := fun t h => htext ⟨t, h⟩
    rw [withHeadline_of_not_text hnone]
    cases headline.truthy with
    | true => simp [hnone, eq_comm]
    | false => simp

/-! ### Displays -/

/-- **The faults of a display.** The mark is looked at first, whatever the index is, then the index,
and last the headline. Where none of them is at fault there is a display. -/
theorem pointAt_eq_error_iff {s : Sequence} {index : Int} {headline : Value} {style : PointerStyle}
    {f : Fault} : pointAt s index headline style = .error f ↔
      ¬ VisibleMark style.mark ∧ f = .badPointer style.mark ∨
      VisibleMark style.mark ∧ ¬ Inside s.elements index ∧
        f = .outside index s.elements.length ∨
      VisibleMark style.mark ∧ Inside s.elements index ∧
        headline.truthy = true ∧ (∀ t, headline ≠ .text t) ∧ f = .notText 0 headline := by
  by_cases hmark : VisibleMark style.mark
  · obtain ⟨p, hp⟩ := hmark.exists_ok
    by_cases hindex : Inside s.elements index
    · obtain ⟨i, rfl, hi⟩ := hindex.exists_nat
      rw [pointAt_eq_withHeadline hi hp, withHeadline_eq_error_iff]
      simp only [hmark, hindex, not_true_eq_false, false_and, true_and, false_or]
    · have hpoint : pointAt s index headline style = .error (.outside index s.elements.length) := by
        rw [pointAt, hp, indexIn_of_not_inside hindex]
        rfl
      rw [hpoint, Except.error.injEq]
      simp only [hmark, hindex, not_true_eq_false, not_false_eq_true, false_and, true_and, false_or,
        or_false, eq_comm]
  · have hpoint : pointAt s index headline style = .error (.badPointer style.mark) := by
      rw [pointAt, checkMark_of_not_visible hmark]
      rfl
    rw [hpoint, Except.error.injEq]
    simp only [hmark, not_false_eq_true, false_and, true_and, or_false, eq_comm]

theorem pointAt_eq_badPointer_iff {s : Sequence} {index : Int} {headline : Value}
    {style : PointerStyle} :
    pointAt s index headline style = .error (.badPointer style.mark) ↔ ¬ VisibleMark style.mark := by
  rw [pointAt_eq_error_iff]
  simp

/-- Nothing but the mark is refused as a value. -/
theorem pointAt_kind_value_iff {s : Sequence} {index : Int} {headline : Value}
    {style : PointerStyle} :
    (∃ f, pointAt s index headline style = .error f ∧ f.kind = .value) ↔
      ¬ VisibleMark style.mark := by
  constructor
  · rintro ⟨f, hf, hkind⟩
    rcases pointAt_eq_error_iff.mp hf with ⟨hnot, -⟩ | ⟨-, -, rfl⟩ | ⟨-, -, -, -, rfl⟩
    · exact hnot
    · cases hkind
    · cases hkind
  · exact fun hnot => ⟨_, pointAt_eq_badPointer_iff.mpr hnot, rfl⟩

end Caret

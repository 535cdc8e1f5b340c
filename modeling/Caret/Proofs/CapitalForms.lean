import Caret.Text.Case

/-!
# Capitals have no other capital form

The capital form of a code point is made of code points that are their own capital forms. For a form
that is listed this is looked up one by one. A form at a distance comes from a run, and a whole run
is checked at once: where it lands, no entry of either table takes it further. Main statement: a
text that is made capital stays as it is when it is made capital again.
-/

namespace Caret

/-- A search for what fewer elements satisfy ends at the same element, if that one is among them. -/
theorem find?_eq_of_imp {α : Type} {p q : α → Bool} (himp : ∀ a, q a = true → p a = true)
    {l : List α} (hfirst : ∀ a, l.find? p = some a → q a = true) : l.find? q = l.find? p := by
  induction l with
  | nil => rfl
  | cons a l ih =>
    cases hp : p a with
    | true =>
      have hfind : (a :: l).find? p = some a := List.find?_cons_of_pos hp
      rw [hfind, List.find?_cons_of_pos (hfirst a hfind)]
    | false =>
      have hpn : ¬ p a = true := by rw [hp]; exact Bool.false_ne_true
      have hqn : ¬ q a = true := fun hq => hpn (himp a hq)
      rw [List.find?_cons_of_neg hpn] at hfirst ⊢
      rw [List.find?_cons_of_neg hqn]
      exact ih hfirst

/-- The first entry that does not end before a number is the first for a greater number too, as long
as it does not end before that one. -/
theorem find?_le_eq {α : Type} {stop : α → Nat} {l : List α} {low n : Nat} (hlow : low ≤ n)
    (hfirst : ∀ a, (l.find? fun a => decide (low ≤ stop a)) = some a → n ≤ stop a) :
    (l.find? fun a => decide (n ≤ stop a)) = l.find? fun a => decide (low ≤ stop a) := by
  refine find?_eq_of_imp (fun a ha => ?_) fun a ha => decide_eq_true (hfirst a ha)
  exact decide_eq_true (Nat.le_trans hlow (of_decide_eq_true ha))

/-! ### Where runs land -/

namespace CaseRun

/-- No number that a run gives is covered by another one: what the run gives lies in front of the
other one, or at the odd distances from its start where it goes by twos. -/
def Misses (r s : CaseRun) : Prop :=
  r.apply r.last ≤ s.last ∧ (r.apply r.last < s.first ∨
    s.step = 2 ∧ (r.apply r.first + s.first) % 2 = 1 ∧ (r.step = 2 ∨ r.first = r.last))

instance (r s : CaseRun) : Decidable (r.Misses s) := inferInstanceAs (Decidable (_ ∧ _))

/-- A run gives code points, none of which has a capital form of its own. Both tables ascend, so of
each table only the first entry has to be looked at that does not end before the run lands. -/
structure Settled (r : CaseRun) : Prop where
  nonneg : 0 ≤ (r.first : Int) + r.shift
  lt : r.apply r.last < 0x110000
  long : ∀ e, (capitalLong.find? fun e => decide (r.apply r.first ≤ e.1)) = some e →
    r.apply r.last < e.1
  runs : ∀ s, (capitalRuns.find? fun s => decide (r.apply r.first ≤ s.last)) = some s → r.Misses s

theorem covers_iff {r : CaseRun} {n : Nat} :
    r.covers n = true ↔ r.first ≤ n ∧ n ≤ r.last ∧ (n - r.first) % r.step = 0 := by
  simp [covers, and_assoc]

theorem settled_of_mem {r : CaseRun} (h : r ∈ capitalRuns) : r.Settled := by
  have hall : ∀ r ∈ capitalRuns, 0 ≤ (r.first : Int) + r.shift ∧ r.apply r.last < 0x110000 ∧
      (∀ e ∈ capitalLong.find? fun e => decide (r.apply r.first ≤ e.1), r.apply r.last < e.1) ∧
      ∀ s ∈ capitalRuns.find? fun s => decide (r.apply r.first ≤ s.last), r.Misses s := by
    decide +kernel
  obtain ⟨hnonneg, hlt, hlong, hruns⟩ := hall r h
  exact ⟨hnonneg, hlt, hlong, hruns⟩

section Landing

variable {r : CaseRun} {n : Nat} (hsettled : r.Settled) (hn : r.covers n = true)
include hsettled hn

theorem apply_bounds : r.apply r.first ≤ r.apply n ∧ r.apply n ≤ r.apply r.last := by
  obtain ⟨hfirst, hlast, -⟩ := covers_iff.mp hn
  have hnonneg := hsettled.nonneg
  unfold apply
  omega

theorem Misses.covers_eq_false {s : CaseRun} (h : r.Misses s) : s.covers (r.apply n) = false := by
  obtain ⟨hlow, hhigh⟩ := apply_bounds hsettled hn
  obtain ⟨hfirst, hlast, hstep⟩ := covers_iff.mp hn
  have hnonneg := hsettled.nonneg
  rw [Bool.eq_false_iff, ne_eq, covers_iff]
  rintro ⟨hs, -, hdivides⟩
  rcases h.2 with hfront | ⟨hs2, hodd, htwos⟩
  · omega
  · rw [hs2] at hdivides
    -- a run by twos keeps the parity of its start, and a run of one number is its start
    have hparity : r.apply n % 2 = r.apply r.first % 2 := by
      rcases htwos with hr2 | hone
      · rw [hr2] at hstep
        unfold apply
        omega
      · have heq : n = r.first := by omega
        rw [heq]
    omega

/-- What a settled run gives is its own capital form. -/
theorem capitalForm_apply :
    capitalForm (CodePoint.ofNat (r.apply n)) = [CodePoint.ofNat (r.apply n)] := by
  obtain ⟨hlow, hhigh⟩ := apply_bounds hsettled hn
  have hlt : r.apply n < 0x110000 := by
    have hlast := hsettled.lt
    omega
  have hlong : ((capitalLong.find? fun e => decide (r.apply n ≤ e.1)).filter
      (·.1 == r.apply n)) = none := by
    rw [find?_le_eq hlow fun e he =>
        Nat.le_of_lt (Nat.lt_of_le_of_lt hhigh (hsettled.long e he)),
      Option.filter_eq_none_iff]
    intro e he heq
    have hbehind := hsettled.long e he
    have hat := beq_iff_eq.mp heq
    omega
  have hruns : ((capitalRuns.find? fun s => decide (r.apply n ≤ s.last)).filter
      (·.covers (r.apply n))) = none := by
    rw [find?_le_eq hlow fun s hs => Nat.le_trans hhigh (hsettled.runs s hs).1,
      Option.filter_eq_none_iff]
    intro s hs hcovers
    rw [(hsettled.runs s hs).covers_eq_false hsettled hn] at hcovers
    cases hcovers
  rw [capitalForm, caseForm, CodePoint.val_ofNat hlt, hlong]
  dsimp only
  rw [hruns]

end Landing

end CaseRun

/-! ### Capital forms -/

theorem capitalForm_of_listed {e : Nat × List Nat} (he : e ∈ capitalLong) {n : Nat}
    (hn : n ∈ e.2) : capitalForm (CodePoint.ofNat n) = [CodePoint.ofNat n] := by
  have hall : ∀ e ∈ capitalLong, ∀ n ∈ e.2,
      capitalForm (CodePoint.ofNat n) = [CodePoint.ofNat n] := by decide +kernel
  exact hall e he n hn

/-- What a capital form is made of is its own capital form. -/
theorem capitalForm_of_mem {c d : CodePoint} (h : d ∈ capitalForm c) : capitalForm d = [d] := by
  unfold capitalForm caseForm at h
  split at h
  · next e he =>
    obtain ⟨hfind, -⟩ := Option.filter_eq_some_iff.mp he
    obtain ⟨n, hn, rfl⟩ := List.mem_map.mp h
    exact capitalForm_of_listed (List.mem_of_find?_eq_some hfind) hn
  · next hlong =>
    split at h
    · next r hr =>
      obtain ⟨hfind, hcovers⟩ := Option.filter_eq_some_iff.mp hr
      obtain rfl := List.mem_singleton.mp h
      exact CaseRun.capitalForm_apply
        (CaseRun.settled_of_mem (List.mem_of_find?_eq_some hfind)) hcovers
    · next hruns =>
      obtain rfl := List.mem_singleton.mp h
      rw [capitalForm, caseForm, hlong]
      dsimp only
      rw [hruns]

namespace Text

theorem upper_of_capital {t : Text} (h : ∀ c ∈ t, capitalForm c = [c]) : t.upper = t := by
  induction t with
  | nil => rfl
  | cons c t ih =>
    obtain ⟨hc, ht⟩ := List.forall_mem_cons.mp h
    rw [upper, List.flatMap_cons, hc, ← upper, ih ht]
    rfl

/-- **A text that is made capital stays as it is** when it is made capital again. -/
theorem upper_upper (t : Text) : t.upper.upper = t.upper := by
  refine upper_of_capital fun d hd => ?_
  obtain ⟨c, -, hc⟩ := List.mem_flatMap.mp hd
  exact capitalForm_of_mem hc

end Text

end Caret

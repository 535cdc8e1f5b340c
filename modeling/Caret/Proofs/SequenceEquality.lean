import Mathlib.Data.List.Forall2
import Caret.Proofs.TupleRefinement
import Caret.Proofs.ValueEquality

/-!
# Sources, windows and tuples compared

Whether two operands are equal is first asked of the left one, which answers for some kinds only,
and then of the right one. What comes out depends on the elements alone, and on whether both or
neither are sources. Main statement: this is an equivalence on operands, and equal ones are filed
under one key, or have none for elements of the same kind.
-/

namespace Caret

/-- The elements are equal in their places. -/
def SameElements (xs ys : List Value) : Prop := List.Forall₂ (fun v w => v.same w = true) xs ys

theorem Value.sameItems_iff {xs ys : List Value} : sameItems xs ys = true ↔ SameElements xs ys := by
  induction xs generalizing ys with
  | nil => rw [sameItems_nil_iff, SameElements, List.forall₂_nil_left_iff]
  | cons x xs ih =>
    rw [sameItems_cons_iff, SameElements, List.forall₂_cons_left_iff]
    simp only [ih, SameElements]
    constructor
    · rintro ⟨y, rest, heq, hx, hrest⟩
      exact ⟨y, rest, hx, hrest, heq⟩
    · rintro ⟨y, rest, hx, hrest, heq⟩
      exact ⟨y, rest, heq, hx, hrest⟩

/-- Where the windows lie in their lists, and what stands outside of them, does not matter. -/
theorem Window.same_iff {v w : Window} : v.same w = true ↔ v.length = w.length ∧
    ∀ k < v.length, ∃ x y, v.items[v.start + k]? = some x ∧ w.items[w.start + k]? = some y ∧
      x.same y = true := by
  rw [Window.same, Value.sameItems_iff, SameElements, List.forall₂_iff_get]
  have hv := v.length_toList
  have hw := w.length_toList
  constructor
  · rintro ⟨hlength, h⟩
    refine ⟨by omega, fun k hk => ?_⟩
    exact ⟨_, _, v.getElem?_toList (by omega), w.getElem?_toList (by omega),
      h k (by omega) (by omega)⟩
  · rintro ⟨hlength, h⟩
    refine ⟨by omega, fun k hkv hkw => ?_⟩
    obtain ⟨x, y, hx, hy, hsame⟩ := h k (by omega)
    rw [v.getElem?_toList hkv] at hx
    rw [w.getElem?_toList hkw] at hy
    cases hx
    cases hy
    exact hsame

namespace Operand

/-! ### Who answers -/

/-- Whether the operands are equal, where the left one can tell: a source can tell of sources, a
window of windows and tuples, and a plain value of plain values. -/
def tells : Operand → Operand → Option Bool
  | .source s, .source t => some (s.same t)
  | .window v, .window w => some (v.same w)
  | .window w, .value (.tuple xs) => some (Value.sameItems w.toList xs)
  | .value v, .value w => some (v.same w)
  | _, _ => none

/-- The right operand is asked if the left one cannot tell. Where neither can, the operands are of
different kinds and not equal. -/
def compared (a b : Operand) : Bool := ((a.tells b).or (b.tells a)).getD false

/-- The operands are asked in the same order, and each answers the opposite. -/
def comparedUnequal (a b : Operand) : Bool :=
  (((a.tells b).map (!·)).or ((b.tells a).map (!·))).getD true

theorem compared_eq_same (a b : Operand) : a.compared b = a.same b := by
  cases a with
  | source s =>
    cases b with
    | value v => cases v <;> rfl
    | _ => rfl
  | window w =>
    cases b with
    | value v => cases v <;> rfl
    | _ => rfl
  | value v =>
    cases b with
    | source t => cases v <;> rfl
    | window w =>
      cases v with
      -- Only the window can tell, and so looks from the other side.
      | tuple xs => exact Bool.eq_iff_iff.mpr ⟨Value.sameItems_symm, Value.sameItems_symm⟩
      | _ => rfl
    | value w => cases v <;> rfl

theorem comparedUnequal_eq_not (a b : Operand) : a.comparedUnequal b = !a.same b := by
  rw [← compared_eq_same, compared, comparedUnequal]
  cases a.tells b with
  | some answer => rfl
  | none => cases b.tells a <;> rfl

/-! ### What is compared -/

def IsSource : Operand → Prop
  | .source _ => True
  | _ => False

/-- The operand as a plain value; sources and windows are tuples of their elements. -/
def plain : Operand → Value
  | .source s => .tuple s.items
  | .window w => .tuple w.toList
  | .value v => v

theorem filed_plain (a : Operand) : a.plain.filed = a.filed := by
  cases a <;> rfl

theorem same_iff {a b : Operand} :
    a.same b = true ↔ (a.IsSource ↔ b.IsSource) ∧ a.plain.same b.plain = true := by
  cases a with
  | source s =>
    cases b <;> simp [same, IsSource, plain, Source.same, Value.same]
  | window w =>
    cases b with
    | value v => cases v <;> simp [same, IsSource, plain, Value.same, Value.amount?]
    | _ => simp [same, IsSource, plain, Window.same, Value.same]
  | value v =>
    cases b with
    | window w => cases v <;> simp [same, IsSource, plain, Value.same, Value.amount?]
    | _ => cases v <;> simp [same, IsSource, plain]

theorem same_equivalence : Equivalence fun a b : Operand => a.same b = true where
  refl a := same_iff.mpr ⟨Iff.rfl, a.plain.same_refl⟩
  symm h := by
    obtain ⟨hkind, hplain⟩ := same_iff.mp h
    exact same_iff.mpr ⟨hkind.symm, Value.same_symm hplain⟩
  trans h k := by
    obtain ⟨hkind, hplain⟩ := same_iff.mp h
    obtain ⟨kkind, kplain⟩ := same_iff.mp k
    exact same_iff.mpr ⟨hkind.trans kkind, Value.same_trans hplain kplain⟩

theorem filed_eq_of_same {a b : Operand} (h : a.same b = true) : a.filed = b.filed := by
  rw [← filed_plain, ← filed_plain, Value.filed_eq_of_same (same_iff.mp h).2]

/-- A source, a window or a tuple, and what is in it. -/
inductive HasElements : Operand → List Value → Prop
  | source (s : Source) : HasElements (.source s) s.items
  | window (w : Window) : HasElements (.window w) w.toList
  | tuple (xs : List Value) : HasElements (.value (.tuple xs)) xs

variable {a b : Operand} {xs ys : List Value}

theorem HasElements.plain_eq (h : a.HasElements xs) : a.plain = .tuple xs := by
  cases h <;> rfl

theorem HasElements.same_iff (ha : a.HasElements xs) (hb : b.HasElements ys) :
    a.same b = true ↔ (a.IsSource ↔ b.IsSource) ∧ SameElements xs ys := by
  rw [Operand.same_iff, ha.plain_eq, hb.plain_eq, Value.same, Value.sameItems_iff]

theorem HasElements.filed_eq (h : a.HasElements xs) : a.filed = (Value.tuple xs).filed := by
  rw [← filed_plain, h.plain_eq]

theorem HasElements.keyless_of_filed {f : Fault} (h : a.HasElements xs) (hf : a.filed = .error f) :
    ∃ kind, f = .unhashable kind ∧ ∃ x ∈ xs, x.Keyless kind := by
  rw [h.filed_eq] at hf
  obtain ⟨kind, rfl, hkeyless⟩ := Value.keyless_of_filed hf
  exact ⟨kind, rfl, Value.keyless_tuple_iff.mp hkeyless⟩

theorem HasElements.isOk_filed_iff (h : a.HasElements xs) :
    a.filed.isOk = true ↔ ∀ x ∈ xs, ∀ kind, ¬ x.Keyless kind := by
  constructor
  · intro hok x hx kind hkeyless
    rw [h.filed_eq, Value.isOk_filed_of_keyless (Value.keyless_tuple_iff.mpr ⟨x, hx, hkeyless⟩)]
      at hok
    cases hok
  · intro hnone
    cases hfiled : a.filed with
    | ok key => rfl
    | error f =>
      obtain ⟨kind, -, x, hx, hkeyless⟩ := h.keyless_of_filed hfiled
      exact absurd hkeyless (hnone x hx kind)

/-- Operands with one key are filed under it; without a key, both are refused for an element. -/
theorem HasElements.filed_alike (ha : a.HasElements xs) (hb : b.HasElements ys)
    (h : a.same b = true) :
    (∃ key, a.filed = .ok key ∧ b.filed = .ok key) ∨
      ∃ kind, a.filed = .error (.unhashable kind) ∧ b.filed = .error (.unhashable kind) ∧
        (∃ x ∈ xs, x.Keyless kind) ∧ ∃ y ∈ ys, y.Keyless kind := by
  have heq := filed_eq_of_same h
  cases hfiled : a.filed with
  | ok key => exact .inl ⟨key, rfl, heq.symm.trans hfiled⟩
  | error f =>
    have hother := heq.symm.trans hfiled
    obtain ⟨kind, rfl, hx⟩ := ha.keyless_of_filed hfiled
    obtain ⟨_, hkind, hy⟩ := hb.keyless_of_filed hother
    cases hkind
    exact .inr ⟨kind, rfl, hother, hx, hy⟩

end Operand

/-! ### Steps that compare -/

namespace Program

variable {memory : Memory} {i j : Nat} {a b : Operand}

theorem step_same (hi : operandAt memory i = .ok a) (hj : operandAt memory j = .ok b) :
    step memory (.same i j) = .ok (.value (.bool (a.same b))) := by
  rw [step, hi, hj]
  rfl

theorem step_differ (hi : operandAt memory i = .ok a) (hj : operandAt memory j = .ok b) :
    step memory (.differ i j) = .ok (.value (.bool (!a.same b))) := by
  rw [step, hi, hj]
  rfl

theorem step_sameHash {k l : HashKey} (hi : operandAt memory i = .ok a)
    (hj : operandAt memory j = .ok b) (ha : a.filed = .ok k) (hb : b.filed = .ok l) :
    step memory (.sameHash i j) = .ok (.value (.bool (k.same l))) := by
  rw [step, hi, hj]
  simp only [bind, Except.bind, ha, hb]
  rfl

theorem step_sameHash_refused {f : Fault} (hi : operandAt memory i = .ok a)
    (hj : operandAt memory j = .ok b) (ha : a.filed = .error f) :
    step memory (.sameHash i j) = .error f := by
  rw [step, hi, hj]
  simp only [bind, Except.bind, ha]

end Program

/-- **Sequences are compared by their elements.** Equality is an equivalence, and asking one operand
after the other comes to it. Windows are equal where they show equal elements, wherever they lie.
Sources, windows and tuples are equal if both or neither are sources and their elements are equal;
they are filed like the tuple of their elements, and equal ones alike. -/
theorem compared_by_elements :
    (Equivalence fun a b : Operand => a.same b = true) ∧
    (∀ a b : Operand, a.compared b = a.same b ∧ a.comparedUnequal b = !a.same b) ∧
    (∀ v w : Window, (Operand.window v).same (.window w) = true ↔ v.length = w.length ∧
      ∀ k < v.length, ∃ x y, v.items[v.start + k]? = some x ∧ w.items[w.start + k]? = some y ∧
        x.same y = true) ∧
    ∀ {memory : Program.Memory} {i j : Nat} {a b : Operand} {xs ys : List Value},
      Program.operandAt memory i = .ok a → Program.operandAt memory j = .ok b →
      a.HasElements xs → b.HasElements ys →
      Program.step memory (.same i j) = .ok (.value (.bool (a.same b))) ∧
      Program.step memory (.differ i j) = .ok (.value (.bool (!a.same b))) ∧
      (a.same b = true ↔ (a.IsSource ↔ b.IsSource) ∧ SameElements xs ys) ∧
      a.filed = (Value.tuple xs).filed ∧
      (a.filed.isOk = true ↔ ∀ x ∈ xs, ∀ kind, ¬ x.Keyless kind) ∧
      (a.same b = true →
        (∃ key, a.filed = .ok key ∧ b.filed = .ok key ∧
          Program.step memory (.sameHash i j) = .ok (.value (.bool true))) ∨
        ∃ kind, a.filed = .error (.unhashable kind) ∧ b.filed = .error (.unhashable kind) ∧
          Program.step memory (.sameHash i j) = .error (.unhashable kind) ∧
          (∃ x ∈ xs, x.Keyless kind) ∧ ∃ y ∈ ys, y.Keyless kind) := by
  refine ⟨Operand.same_equivalence,
    fun a b => ⟨a.compared_eq_same b, a.comparedUnequal_eq_not b⟩, fun _ _ => Window.same_iff, ?_⟩
  intro memory i j a b xs ys hi hj ha hb
  refine ⟨Program.step_same hi hj, Program.step_differ hi hj, ha.same_iff hb, ha.filed_eq,
    ha.isOk_filed_iff, fun hsame => ?_⟩
  rcases ha.filed_alike hb hsame with ⟨key, hka, hkb⟩ | ⟨kind, hfa, hfb, hkeyless⟩
  · refine .inl ⟨key, hka, hkb, ?_⟩
    rw [Program.step_sameHash hi hj hka hkb, key.same_refl]
  · exact .inr ⟨kind, hfa, hfb, Program.step_sameHash_refused hi hj hfa, hkeyless⟩

/-- Windows at other places of other lists, with a number for a truth value and a list in them. -/
theorem compared_by_elements_shifted :
    let v : Window := ⟨[.eot, .int 1, .list []], 1, 3, by decide, by decide⟩
    let w : Window := ⟨[.bool true, .list [], .null], 0, 2, by decide, by decide⟩
    let memory : Program.Memory := [some (.window v), some (.window w)]
    Program.step memory (.same 0 1) = .ok (.value (.bool true)) ∧
      Program.step memory (.sameHash 0 1) = .error (.unhashable (text "list")) := by
  intro v w memory
  obtain ⟨-, -, -, hsteps⟩ := compared_by_elements
  obtain ⟨hstep, -, hiff, -, -, hfiled⟩ :=
    @hsteps memory 0 1 _ _ _ _ rfl rfl (.window v) (.window w)
  have hitems : SameElements v.toList w.toList :=
    .cons ((Value.same_iff_of_amount rfl).mpr rfl) (.cons (Value.same_refl _) .nil)
  have hsame := hiff.mpr ⟨Iff.rfl, hitems⟩
  have hrefused : (Operand.window v).filed = .error (.unhashable (text "list")) := rfl
  refine ⟨by rw [hstep, hsame], ?_⟩
  rcases hfiled hsame with ⟨key, hkey, -⟩ | ⟨kind, hkind, -, hhash, -⟩
  · rw [hrefused] at hkey
    cases hkey
  · rw [hrefused] at hkind
    cases hkind
    exact hhash

end Caret

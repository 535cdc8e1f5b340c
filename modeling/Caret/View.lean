import Caret.Source.Basic

/-!
# Views

A sequence that is no list of its own gives its length, its items by index and the turns of a loop
over it; all else that is asked of it is answered from these, one look after the other. A loop in
turn gives the list of the elements, tells whether an item is among them, and counts it. The
elements from the last to the first, and the first position of an item in a range, are found by
index; the search ends where an index is refused. The loops are those of `CharSequence` and
`SequenceView`. Main statements: what the loops give on a view that shows a list, as the views of
sources and windows do.
-/

namespace Caret

structure View where
  length : Nat
  get : Int → Except Fault Value
  /-- The number of turns of a loop over the elements. -/
  turns : Nat
  /-- The element that a turn meets. -/
  turn : Nat → Except Fault Value

namespace View

variable (v : View)

/-! ### Loops in turn -/

/-- The elements of the turns that are left, from a turn on. -/
def listFrom : Nat → Nat → Except Fault (List Value)
  | 0, _ => .ok []
  | left + 1, n => do
    let u ← v.turn n
    let us ← listFrom left (n + 1)
    pure (u :: us)

/-- Ends at the first turn that meets an equal element. -/
def containsFrom (item : Value) : Nat → Nat → Except Fault Bool
  | 0, _ => .ok false
  | left + 1, n => do
    let u ← v.turn n
    if u.same item then pure true else containsFrom item left (n + 1)

def countFrom (item : Value) : Nat → Nat → Except Fault Nat
  | 0, _ => .ok 0
  | left + 1, n => do
    let u ← v.turn n
    let k ← countFrom item left (n + 1)
    pure (if u.same item then k + 1 else k)

def list : Except Fault (List Value) := v.listFrom v.turns 0

def contains (item : Value) : Except Fault Bool := v.containsFrom item v.turns 0

def count (item : Value) : Except Fault Nat := v.countFrom item v.turns 0

/-! ### Loops by index -/

/-- The elements below an index, the last one first. -/
def reversedBelow : Nat → Except Fault (List Value)
  | 0 => .ok []
  | i + 1 => do
    let u ← v.get i
    let us ← reversedBelow i
    pure (u :: us)

def reversed : Except Fault (List Value) := v.reversedBelow v.length

/-- Seeks an item from an index on and ends without it at the stop, or where an index is refused.
That is so at the length at the latest, which bounds the number of looks. -/
def seek (item : Value) (stop : Option Int) : Nat → Nat → Except Fault Nat
  | 0, _ => .error .notFound
  | left + 1, i =>
    if stop.all (fun b => decide ((i : Int) < b)) then
      match v.get i with
      | .ok u => if u.same item then .ok i else seek item stop left (i + 1)
      | .error f => if f.kind = .index then .error .notFound else .error f
    else .error .notFound

/-- Bounds below zero count from the end; a start before the sequence is its beginning. -/
def position (item : Value) (start stop : Option Int) : Except Fault Nat :=
  let b := start.getD 0
  let first := (if b < 0 then max (v.length + b) 0 else b).toNat
  let last := stop.map fun (e : Int) => if e < 0 then e + v.length else e
  v.seek item last (v.length + 1 - first) first

/-! ### First positions -/

/-- The first position from an index on, and before the stop, at which an equal element stands. -/
structure FirstFrom (xs : List Value) (item : Value) (stop : Option Int) (i p : Nat) : Prop where
  le : i ≤ p
  before_stop : stop.all (fun b => decide ((p : Int) < b)) = true
  found : xs[p]?.any (·.same item) = true
  missed : ∀ q, i ≤ q → q < p → xs[q]?.any (·.same item) = false

namespace FirstFrom

variable {xs : List Value} {item : Value} {stop : Option Int} {i p : Nat}

theorem lt_length (h : FirstFrom xs item stop i p) : i < xs.length := by
  refine Nat.lt_of_le_of_lt h.le (Nat.lt_of_not_le fun hge => ?_)
  have hfound := h.found
  rw [List.getElem?_eq_none hge] at hfound
  cases hfound

theorem lt_stop (h : FirstFrom xs item stop i p) :
    stop.all (fun b => decide ((i : Int) < b)) = true := by
  have hle := h.le
  have hstop := h.before_stop
  cases stop with
  | none => rfl
  | some b =>
    simp only [Option.all_some, decide_eq_true_eq] at hstop ⊢
    omega

theorem self (hstop : stop.all (fun b => decide ((i : Int) < b)) = true)
    (hfound : xs[i]?.any (·.same item) = true) : FirstFrom xs item stop i i :=
  ⟨Nat.le_refl i, hstop, hfound, fun _ hq hqi => absurd hqi (Nat.not_lt.mpr hq)⟩

/-- A later position would have this one before it. -/
theorem eq_of_found (h : FirstFrom xs item stop i p) (hfound : xs[i]?.any (·.same item) = true) :
    p = i := by
  refine Nat.le_antisymm (Nat.le_of_not_lt fun hip => ?_) h.le
  have hmissed := h.missed i (Nat.le_refl i) hip
  rw [hfound] at hmissed
  cases hmissed

/-- What is not equal is passed. -/
theorem succ_iff (hmissed : xs[i]?.any (·.same item) = false) :
    FirstFrom xs item stop (i + 1) p ↔ FirstFrom xs item stop i p := by
  constructor
  · rintro ⟨hle, hstop, hfound, hbefore⟩
    refine ⟨by omega, hstop, hfound, fun q hq hqp => ?_⟩
    rcases Nat.eq_or_lt_of_le hq with rfl | hlater
    · exact hmissed
    · exact hbefore q hlater hqp
  · rintro ⟨hle, hstop, hfound, hbefore⟩
    rcases Nat.eq_or_lt_of_le hle with rfl | hlater
    · rw [hmissed] at hfound
      cases hfound
    · exact ⟨hlater, hstop, hfound, fun q hq hqp => hbefore q (by omega) hqp⟩

end FirstFrom

/-! ### Views of a list -/

/-- The view has the elements of a list, and an index behind them is refused as an index. -/
structure Shows (v : View) (xs : List Value) : Prop where
  length : v.length = xs.length
  get : ∀ (i : Nat) (h : i < xs.length), v.get i = .ok xs[i]
  get_length : ∀ i : Nat, xs.length ≤ i → ∃ f, v.get i = .error f ∧ f.kind = .index
  turns : v.turns = xs.length
  turn : ∀ (n : Nat) (h : n < xs.length), v.turn n = .ok xs[n]

namespace Shows

variable {v : View} {xs : List Value} (h : v.Shows xs)
include h

theorem listFrom_eq {left n : Nat} (hn : n + left = xs.length) :
    v.listFrom left n = .ok (xs.drop n) := by
  induction left generalizing n with
  | zero => rw [listFrom, List.drop_of_length_le (by omega)]
  | succ left ih =>
    have hlt : n < xs.length := by omega
    rw [listFrom, h.turn n hlt]
    simp only [bind, Except.bind, pure, Except.pure]
    rw [ih (by omega), List.drop_eq_getElem_cons hlt]

theorem list_eq : v.list = .ok xs := by
  rw [list, h.listFrom_eq (by rw [h.turns]; omega), List.drop_zero]

theorem containsFrom_eq (item : Value) {left n : Nat} (hn : n + left = xs.length) :
    v.containsFrom item left n = .ok ((xs.drop n).any (·.same item)) := by
  induction left generalizing n with
  | zero => rw [containsFrom, List.drop_of_length_le (by omega), List.any_nil]
  | succ left ih =>
    have hlt : n < xs.length := by omega
    rw [containsFrom, h.turn n hlt, List.drop_eq_getElem_cons hlt, List.any_cons]
    simp only [bind, Except.bind, pure, Except.pure]
    by_cases hsame : xs[n].same item = true
    · rw [if_pos hsame, hsame, Bool.true_or]
    · rw [if_neg hsame, ih (by omega), Bool.eq_false_iff.mpr hsame, Bool.false_or]

theorem contains_eq (item : Value) : v.contains item = .ok (xs.any (·.same item)) := by
  rw [contains, h.containsFrom_eq item (by rw [h.turns]; omega), List.drop_zero]

theorem countFrom_eq (item : Value) {left n : Nat} (hn : n + left = xs.length) :
    v.countFrom item left n = .ok ((xs.drop n).countP (·.same item)) := by
  induction left generalizing n with
  | zero => rw [countFrom, List.drop_of_length_le (by omega), List.countP_nil]
  | succ left ih =>
    have hlt : n < xs.length := by omega
    rw [countFrom, h.turn n hlt, List.drop_eq_getElem_cons hlt, List.countP_cons]
    simp only [bind, Except.bind, pure, Except.pure]
    rw [ih (by omega)]
    by_cases hsame : xs[n].same item = true
    · simp only [if_pos hsame]
    · simp only [if_neg hsame, Nat.add_zero]

theorem count_eq (item : Value) : v.count item = .ok (xs.countP (·.same item)) := by
  rw [count, h.countFrom_eq item (by rw [h.turns]; omega), List.drop_zero]

theorem reversedBelow_eq {i : Nat} (hi : i ≤ xs.length) :
    v.reversedBelow i = .ok (xs.take i).reverse := by
  induction i with
  | zero => rfl
  | succ i ih =>
    rw [reversedBelow, h.get i hi, List.take_add_one, List.getElem?_eq_getElem hi]
    simp only [bind, Except.bind, pure, Except.pure]
    rw [ih (by omega), Option.toList_some, List.reverse_append, List.reverse_singleton,
      List.singleton_append]

theorem reversed_eq : v.reversed = .ok xs.reverse := by
  rw [reversed, h.reversedBelow_eq (Nat.le_of_eq h.length), h.length, List.take_length]

/-- The search passes what is not equal, and so finds the first that is. -/
theorem seek_eq_ok_iff {item : Value} {stop : Option Int} {left i p : Nat}
    (hi : xs.length < i + left) :
    v.seek item stop left i = .ok p ↔ FirstFrom xs item stop i p := by
  induction left generalizing i with
  | zero => exact ⟨nofun, fun hp => absurd hp.lt_length (by omega)⟩
  | succ left ih =>
    rw [seek]
    by_cases hstop : stop.all (fun b => decide ((i : Int) < b)) = true
    · rw [if_pos hstop]
      by_cases hlt : i < xs.length
      · have hat : xs[i]?.any (·.same item) = xs[i].same item := by
          rw [List.getElem?_eq_getElem hlt, Option.any_some]
        rw [h.get i hlt]
        dsimp only
        by_cases hsame : xs[i].same item = true
        · rw [if_pos hsame]
          constructor
          · rintro ⟨⟩
            exact .self hstop (hat.trans hsame)
          · exact fun hp => congrArg Except.ok (hp.eq_of_found (hat.trans hsame)).symm
        · rw [if_neg hsame, ih (by omega)]
          exact FirstFrom.succ_iff (hat.trans (Bool.eq_false_iff.mpr hsame))
      · obtain ⟨f, hf, hkind⟩ := h.get_length i (by omega)
        rw [hf]
        dsimp only
        rw [if_pos hkind]
        exact ⟨nofun, fun hp => absurd hp.lt_length hlt⟩
    · rw [if_neg hstop]
      exact ⟨nofun, fun hp => absurd hp.lt_stop hstop⟩

/-- A search that finds nothing says so, whatever ended it. -/
theorem seek_eq_error {item : Value} {stop : Option Int} {left i : Nat} {f : Fault}
    (hf : v.seek item stop left i = .error f) : f = .notFound := by
  induction left generalizing i with
  | zero =>
    cases hf
    rfl
  | succ left ih =>
    rw [seek] at hf
    split at hf
    · by_cases hlt : i < xs.length
      · rw [h.get i hlt] at hf
        dsimp only at hf
        split at hf
        · cases hf
        · exact ih hf
      · obtain ⟨g, hg, hkind⟩ := h.get_length i (by omega)
        rw [hg] at hf
        dsimp only at hf
        rw [if_pos hkind] at hf
        cases hf
        rfl
    · cases hf
      rfl

end Shows

end View

/-! ### Views of sources and windows -/

/-- A source is looped over as the list of its items is. -/
def Source.view (s : Source) : View where
  length := s.length
  get := s.get
  turns := s.items.length
  turn n := itemAt (text "tuple") s.items n

theorem Source.view_shows (s : Source) : s.view.Shows s.items where
  length := rfl
  get i h := itemAt_natCast _ _ i h
  get_length _ hi := s.get_outside (.inr (Int.ofNat_le.mpr hi))
  turns := rfl
  turn n h := itemAt_natCast _ _ n h

/-- A window is looped over from its start to its stop. -/
def Window.view (w : Window) : View where
  length := w.length
  get := w.get
  turns := w.stop - w.start
  turn n := itemAt (text "tuple") w.items (w.start + n : Nat)

theorem Window.view_shows (w : Window) : w.view.Shows w.toList where
  length := w.length_toList.symm
  get _ h := w.get_natCast h
  get_length _ hi := w.get_outside (.inr (Int.ofNat_le.mpr hi))
  turns := w.length_toList.symm
  turn n h := by
    have hlt : n < w.stop - w.start := by simpa [length] using h
    have hle := w.stop_le_length
    show itemAt (text "tuple") w.items (w.start + n : Nat) = _
    rw [itemAt_natCast _ _ _ (by omega)]
    simp [toList]

end Caret

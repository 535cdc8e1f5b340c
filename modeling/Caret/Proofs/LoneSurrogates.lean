import Caret.Proofs.Decoding

/-!
# Surrogates that stand alone

Decoding reads a text in turns. Each turn begins where the one before has stopped, and takes one unit
or a pair of surrogates. Whether a surrogate stands alone is told by its neighbours instead,
wherever the turns begin. Both agree because what a turn takes ends in no high surrogate: the next
unit has the same partner with it as without it. Main statement: a text is refused if and only if
some surrogate of it stands alone, and the first of them is the one that is named.
-/

namespace Caret

namespace Text

/-! ### Turns -/

/-- What a turn at an offset reads: a character, and the offset at which the next turn begins. -/
def readAt (t : Text) (i : Nat) : Except Fault (CodePoint × Nat) :=
  match t.drop i with
  | [] => .error (.itemIndex (text "string"))
  | [c] => if c.isSurrogate then .error (.loneSurrogate c i) else .ok (c, i + 1)
  | c :: d :: _ =>
    if c.isSurrogate then
      if c.isHighSurrogate && d.isLowSurrogate then .ok (CodePoint.joinPair c d, i + 2)
      else .error (.loneSurrogate c i)
    else .ok (c, i + 1)

/-- Every turn goes forward, and none beyond the end. -/
theorem lt_of_readAt {t : Text} {i j : Nat} {c : CodePoint} (h : t.readAt i = .ok (c, j)) :
    i < j ∧ j ≤ t.length := by
  have hlength : (t.drop i).length = t.length - i := List.length_drop
  unfold readAt at h
  split at h
  · cases h
  · next hdrop =>
    rw [hdrop, List.length_singleton] at hlength
    split at h
    · cases h
    · obtain ⟨-, rfl⟩ := Prod.mk.inj (Except.ok.inj h)
      omega
  · next hdrop =>
    rw [hdrop, List.length_cons, List.length_cons] at hlength
    split at h
    · split at h
      · obtain ⟨-, rfl⟩ := Prod.mk.inj (Except.ok.inj h)
        omega
      · cases h
    · obtain ⟨-, rfl⟩ := Prod.mk.inj (Except.ok.inj h)
      omega

/-- **Decoding is one turn after the other.** -/
theorem charactersFrom_drop {t : Text} {i : Nat} (hi : i < t.length) :
    charactersFrom i (t.drop i) =
      (t.readAt i).bind fun p => (charactersFrom p.2 (t.drop p.2)).map (p.1 :: ·) := by
  have hone : t.drop (i + 1) = (t.drop i).drop 1 := List.drop_drop.symm
  have htwo : t.drop (i + 2) = (t.drop i).drop 2 := List.drop_drop.symm
  unfold readAt
  split
  · next hdrop => exact absurd (List.drop_eq_nil_iff.mp hdrop) (Nat.not_le.mpr hi)
  · next c hdrop =>
    rw [hdrop] at hone
    rw [hdrop, charactersFrom.eq_def]
    by_cases hs : c.isSurrogate = true
    · simp [hs, Except.bind]
    · simp [hs, hone, Except.bind]
  · next c d rest hdrop =>
    rw [hdrop] at hone htwo
    rw [hdrop, charactersFrom.eq_def]
    by_cases hs : c.isSurrogate = true
    · by_cases hpair : (c.isHighSurrogate && d.isLowSurrogate) = true
      · simp [hs, hpair, htwo, Except.bind]
      · simp [hs, hpair, Except.bind]
    · simp [hs, hone, Except.bind]

/-! ### Neighbours -/

/-- Only the first unit of a text loses a neighbour when the unit before it is taken away. -/
theorem isLoneAt_cons {c : CodePoint} (t : Text) {k : Nat} (h : k = 0 → c.isHighSurrogate = false) :
    isLoneAt (c :: t) (k + 1) = isLoneAt t k := by
  unfold isLoneAt
  cases k with
  | zero => simp [h rfl]
  | succ k => simp

/-- Units in front of a text which all have their partners, and of which the text holds none. -/
structure Passed (s t : Text) : Prop where
  quiet : ∀ k < s.length, (s ++ t).isLoneAt k = false
  rest : ∀ k, (s ++ t).isLoneAt (s.length + k) = t.isLoneAt k

theorem passed_character {c : CodePoint} (h : c.isSurrogate = false) (t : Text) : Passed [c] t where
  quiet := by
    intro k hk
    obtain rfl : k = 0 := Nat.lt_one_iff.mp hk
    have hhigh := CodePoint.isHighSurrogate_of_not_isSurrogate h
    have hlow : c.isLowSurrogate = false := by
      rw [CodePoint.isSurrogate_eq, hhigh, Bool.false_or] at h
      exact h
    simp [isLoneAt, hhigh, hlow]
  rest := by
    intro k
    rw [List.length_singleton, Nat.add_comm]
    exact isLoneAt_cons t fun _ => CodePoint.isHighSurrogate_of_not_isSurrogate h

theorem passed_pair {hi lo : CodePoint} (hhi : hi.isHighSurrogate = true)
    (hlo : lo.isLowSurrogate = true) (t : Text) : Passed [hi, lo] t where
  quiet := by
    have hlow : hi.isLowSurrogate = false := by
      rw [Bool.eq_false_iff]
      intro hboth
      have hhigh := CodePoint.isHighSurrogate_of_isLowSurrogate hboth
      rw [hhi] at hhigh
      cases hhigh
    have hhigh := CodePoint.isHighSurrogate_of_isLowSurrogate hlo
    intro k hk
    obtain rfl | rfl : k = 0 ∨ k = 1 := by
      rw [List.length_cons, List.length_singleton] at hk
      omega
    · simp [isLoneAt, hlo, hlow]
    · simp [isLoneAt, hhi, hhigh]
  rest := by
    intro k
    -- the low surrogate hides nothing from the text, and the high one stands too far from it
    have hstep : isLoneAt (hi :: lo :: t) (k + 1 + 1) = isLoneAt (lo :: t) (k + 1) :=
      isLoneAt_cons (lo :: t) fun h => absurd h (Nat.succ_ne_zero k)
    have hlast := isLoneAt_cons t (k := k) fun _ => CodePoint.isHighSurrogate_of_isLowSurrogate hlo
    rw [List.length_cons, List.length_singleton, Nat.add_comm]
    exact hstep.trans hlast

/-! ### The first surrogate that stands alone -/

/-- The unit at an offset is the first surrogate without its partner. -/
structure FirstLone (t : Text) (k : Nat) (c : CodePoint) : Prop where
  unit : t[k]? = some c
  lone : t.isLoneAt k = true
  before : ∀ j < k, t.isLoneAt j = false

theorem FirstLone.after {s t : Text} (hs : Passed s t) {k : Nat} {c : CodePoint}
    (h : FirstLone t k c) : FirstLone (s ++ t) (s.length + k) c where
  unit := by
    rw [List.getElem?_append_right (Nat.le_add_right ..), Nat.add_sub_cancel_left]
    exact h.unit
  lone := (hs.rest k).trans h.lone
  before := by
    intro j hj
    by_cases hfront : j < s.length
    · exact hs.quiet j hfront
    · obtain ⟨i, rfl⟩ := Nat.exists_eq_add_of_le (Nat.not_lt.mp hfront)
      rw [hs.rest]
      exact h.before i (Nat.lt_of_add_lt_add_left hj)

theorem FirstLone.isSurrogate {t : Text} {k : Nat} {c : CodePoint} (h : FirstLone t k c) :
    c.isSurrogate = true := by
  have hlone := h.lone
  rw [isLoneAt, h.unit] at hlone
  rw [CodePoint.isSurrogate_eq]
  rcases Bool.or_eq_true_iff.mp hlone with hhigh | hlow
  · rw [(Bool.and_eq_true_iff.mp hhigh).1, Bool.true_or]
  · rw [(Bool.and_eq_true_iff.mp hlow).1, Bool.or_true]

theorem firstLone_head {c : CodePoint} {t : Text} (h : isLoneAt (c :: t) 0 = true) :
    FirstLone (c :: t) 0 c := ⟨rfl, h, fun _ hj => absurd hj (Nat.not_lt_zero _)⟩

/-- What decoding gives for a text that begins at an offset: characters if no surrogate of it stands
alone, or else the first one that does. -/
structure Judged (t : Text) (offset : Nat) (result : Except Fault Text) : Prop where
  passed : ∀ cs, result = .ok cs → ∀ k, t.isLoneAt k = false
  refused : ∀ f, result = .error f → ∃ k c, FirstLone t k c ∧ f = .loneSurrogate c (offset + k)

/-- One turn more in front. -/
theorem Judged.after {s t : Text} (hs : Passed s t) {offset : Nat} {result : Except Fault Text}
    (h : Judged t (offset + s.length) result) (c : CodePoint) :
    Judged (s ++ t) offset (result.map (c :: ·)) where
  passed := by
    intro cs hcs k
    obtain ⟨ds, hds, -⟩ := map_eq_ok_iff.mp hcs
    by_cases hfront : k < s.length
    · exact hs.quiet k hfront
    · obtain ⟨j, rfl⟩ := Nat.exists_eq_add_of_le (Nat.not_lt.mp hfront)
      rw [hs.rest]
      exact h.passed ds hds j
  refused := by
    intro f hf
    obtain ⟨k, u, hfirst, rfl⟩ := h.refused f (map_eq_error_iff.mp hf)
    exact ⟨s.length + k, u, hfirst.after hs, by rw [Nat.add_assoc]⟩

theorem judged_error {c : CodePoint} {t : Text} (offset : Nat) (h : isLoneAt (c :: t) 0 = true) :
    Judged (c :: t) offset (.error (.loneSurrogate c offset)) where
  passed := by nofun
  refused := by
    intro f hf
    cases hf
    exact ⟨0, c, firstLone_head h, rfl⟩

theorem isLoneAt_zero {c : CodePoint} (hc : c.isSurrogate = true) (t : Text)
    (h : (c.isHighSurrogate && t.head?.any CodePoint.isLowSurrogate) = false) :
    isLoneAt (c :: t) 0 = true := by
  rw [CodePoint.isSurrogate_eq] at hc
  cases hhigh : c.isHighSurrogate with
  | true =>
    rw [hhigh, Bool.true_and] at h
    simp [isLoneAt, hhigh, ← List.head?_eq_getElem?, h]
  | false =>
    rw [hhigh, Bool.false_or] at hc
    simp [isLoneAt, hhigh, hc]

theorem judged_charactersFrom (offset : Nat) (t : Text) :
    Judged t offset (charactersFrom offset t) := by
  fun_induction charactersFrom offset t with
  | case1 offset =>
    constructor
    · intro _ _ k
      simp [isLoneAt]
    · intro f hf
      cases hf
  | case2 offset c hc => exact judged_error offset (isLoneAt_zero hc [] (by simp))
  | case3 offset c hc d rest hpair ih =>
    obtain ⟨hhi, hlo⟩ := Bool.and_eq_true_iff.mp hpair
    exact Judged.after (passed_pair hhi hlo rest) ih _
  | case4 offset c hc d rest hpair =>
    exact judged_error offset (isLoneAt_zero hc (d :: rest) (Bool.eq_false_iff.mpr hpair))
  | case5 offset c rest hc ih =>
    exact Judged.after (passed_character (Bool.eq_false_iff.mpr hc) rest) ih _

/-! ### The number of a surrogate -/

/-- The digits of the base sixteen, with capitals beyond nine. -/
def sixteenth (n : Fin 16) : CodePoint := (text "0123456789ABCDEF").get ⟨n, n.isLt⟩

theorem hexDigit_eq_sixteenth (n : Nat) :
    hexDigit 'A' (n % 16) = sixteenth ⟨n % 16, Nat.mod_lt n (by decide)⟩ := by
  have hall : ∀ k : Fin 16, hexDigit 'A' k = sixteenth k := by decide
  exact hall ⟨n % 16, Nat.mod_lt n (by decide)⟩

theorem exists_digits {n : Nat} (h : n < 0x10000) :
    ∃ w x y z : Fin 16, n = ((w * 16 + x) * 16 + y) * 16 + z ∧
      hex 'A' 4 n = [sixteenth w, sixteenth x, sixteenth y, sixteenth z] := by
  refine ⟨⟨n / 16 / 16 / 16 % 16, by omega⟩, ⟨n / 16 / 16 % 16, by omega⟩,
    ⟨n / 16 % 16, by omega⟩, ⟨n % 16, by omega⟩, ?_, ?_⟩
  · dsimp only
    omega
  · simp only [hex, hexDigit_eq_sixteenth, List.nil_append, List.cons_append]

end Text

/-! ### Sources -/

namespace Source

theorem splitEnd?_concat (body : List Value) (v : Value) :
    splitEnd? (body ++ [v]) = some (body, v) := by
  induction body with
  | nil => rfl
  | cons u body ih =>
    obtain ⟨w, rest, hrest⟩ : ∃ w rest, body ++ [v] = w :: rest := by
      cases body with
      | nil => exact ⟨v, [], rfl⟩
      | cons w rest => exact ⟨w, rest ++ [v], rfl⟩
    rw [hrest] at ih
    rw [List.cons_append, hrest, splitEnd?, ih]
    · rfl
    · nofun

/-- The items of a source make it again. -/
theorem ofItems_items (s : Source) : ofItems s.items = .ok s := by
  rw [ofItems, items, splitEnd?_concat]
  exact dif_pos s.body_unmarked

/-- The only fault of decoding. -/
theorem decode_eq_error {t : Text} {f : Fault} (h : decode t = .error f) :
    ∃ k c, Text.FirstLone t k c ∧ f = .loneSurrogate c k := by
  obtain ⟨k, c, hfirst, rfl⟩ := (Text.judged_charactersFrom 0 t).refused f (map_eq_error_iff.mp h)
  exact ⟨k, c, hfirst, by rw [Nat.zero_add]⟩

/-- **A text is refused at its first surrogate that stands alone.** A text gives no source if and
only if some surrogate of it has no partner beside it. The fault is then the first such, and its
message gives the number of the surrogate in the base sixteen and the offset. No other fault is met
on the way: every turn of the decoder goes forward, and what it has read in the end makes a source.
-/
theorem decode_refuses_first_lone (t : Text) :
    ((∃ f, decode t = .error f) ↔ ∃ k, t.isLoneAt k = true) ∧
    (∀ f, decode t = .error f → ∃ k c, ∃ w x y z : Fin 16,
      t[k]? = some c ∧ t.isLoneAt k = true ∧ (∀ j < k, t.isLoneAt j = false) ∧
      f = .loneSurrogate c k ∧ f.kind = .value ∧
      c.val = ((w * 16 + x) * 16 + y) * 16 + z ∧
      f.message = text "lone surrogate U+" ++
        [Text.sixteenth w, Text.sixteenth x, Text.sixteenth y, Text.sixteenth z] ++
        text " at offset " ++ Text.ofNat k ++ text " is not a scalar value") ∧
    (∀ cs, t.characters = .ok cs → ofItems (cs.map Value.ofCodePoint ++ [.eot]) = decode t) ∧
    ∀ i, i < t.length →
      Text.charactersFrom i (t.drop i) = ((t.readAt i).bind fun p =>
        (Text.charactersFrom p.2 (t.drop p.2)).map (p.1 :: ·)) ∧
      ∀ c j, t.readAt i = .ok (c, j) → i < j ∧ j ≤ t.length := by
  refine ⟨⟨?_, ?_⟩, ?_, ?_, ?_⟩
  · rintro ⟨f, hf⟩
    obtain ⟨k, c, hlone, -⟩ := decode_eq_error hf
    exact ⟨k, hlone.lone⟩
  · rintro ⟨k, hk⟩
    cases hresult : decode t with
    | error f => exact ⟨f, rfl⟩
    | ok s =>
      obtain ⟨cs, hcs, -⟩ := decode_eq_ok hresult
      rw [(Text.judged_charactersFrom 0 t).passed cs hcs k] at hk
      cases hk
  · intro f hf
    obtain ⟨k, c, hlone, rfl⟩ := decode_eq_error hf
    have hsurrogate : c.isSurrogate = true := hlone.isSurrogate
    have hval : c.val < 0x10000 := by
      have hrange := CodePoint.isSurrogate_iff.mp hsurrogate
      omega
    obtain ⟨w, x, y, z, hnumber, hdigits⟩ := Text.exists_digits hval
    refine ⟨k, c, w, x, y, z, hlone.unit, hlone.lone, hlone.before, rfl, rfl, hnumber, ?_⟩
    rw [Fault.message, hdigits]
  · intro cs hcs
    rw [decode, hcs, ← items_ofCharacters, ofItems_items]
    rfl
  · intro i hi
    exact ⟨Text.charactersFrom_drop hi, fun c j hread => Text.lt_of_readAt hread⟩

end Source

end Caret

import Caret.Source.Encoding

/-!
# Decoding reads the encodings

A pair of surrogates and the character that it stands for are two forms of one number, so that
taking a character apart and joining its parts undo each other. Decoding takes one piece of an
encoding at a time, which is one unit or a pair. Main statement: a text is decoded into some
characters exactly when it encodes them; what is left after decoding holds no surrogate, and
decoding it again changes nothing.
-/

namespace Caret

/-! ### Pairs of surrogates -/

namespace CodePoint

theorem isHighSurrogate_iff {c : CodePoint} :
    c.isHighSurrogate = true ↔ 0xD800 ≤ c.val ∧ c.val ≤ 0xDBFF := by
  simp only [isHighSurrogate, Bool.and_eq_true, decide_eq_true_eq]

theorem isLowSurrogate_iff {c : CodePoint} :
    c.isLowSurrogate = true ↔ 0xDC00 ≤ c.val ∧ c.val ≤ 0xDFFF := by
  simp only [isLowSurrogate, Bool.and_eq_true, decide_eq_true_eq]

theorem isSurrogate_iff {c : CodePoint} :
    c.isSurrogate = true ↔ 0xD800 ≤ c.val ∧ c.val ≤ 0xDFFF := by
  simp only [isSurrogate, Bool.and_eq_true, decide_eq_true_eq]

theorem isSurrogate_of_isHighSurrogate {c : CodePoint} (h : c.isHighSurrogate = true) :
    c.isSurrogate = true := by rw [isSurrogate_eq, h, Bool.true_or]

theorem isHighSurrogate_of_not_isSurrogate {c : CodePoint} (h : c.isSurrogate = false) :
    c.isHighSurrogate = false := by
  rw [isSurrogate_eq, Bool.or_eq_false_iff] at h
  exact h.1

theorem isHighSurrogate_of_isLowSurrogate {c : CodePoint} (h : c.isLowSurrogate = true) :
    c.isHighSurrogate = false := by
  rw [isLowSurrogate_iff] at h
  rw [Bool.eq_false_iff, ne_eq, isHighSurrogate_iff]
  omega

theorem isSurrogate_of_great {c : CodePoint} (h : 0x10000 ≤ c.val) : c.isSurrogate = false := by
  rw [Bool.eq_false_iff, ne_eq, isSurrogate_iff]
  omega

theorem val_lowPart (c : CodePoint) : c.lowPart.val = 0xDC00 + (c.val - 0x10000) % 0x400 :=
  val_ofNat (by omega)

theorem isLowSurrogate_lowPart (c : CodePoint) : c.lowPart.isLowSurrogate = true := by
  rw [isLowSurrogate_iff, val_lowPart]
  omega

section Parts

variable {c : CodePoint} (h : 0x10000 ≤ c.val)
include h

theorem val_highPart : c.highPart.val = 0xD800 + (c.val - 0x10000) / 0x400 := by
  have hlt := c.val_lt
  exact val_ofNat (by omega)

theorem isHighSurrogate_highPart : c.highPart.isHighSurrogate = true := by
  have hlt := c.val_lt
  rw [isHighSurrogate_iff, val_highPart h]
  omega

theorem joinPair_parts : joinPair c.highPart c.lowPart = c := by
  have hjoin := val_joinPair (isHighSurrogate_highPart h) c.isLowSurrogate_lowPart
  rw [val_highPart h, val_lowPart] at hjoin
  refine CodePoint.ext (hjoin.trans ?_)
  omega

end Parts

section Joined

variable {hi lo : CodePoint} (hhi : hi.isHighSurrogate = true) (hlo : lo.isLowSurrogate = true)
include hhi hlo

theorem le_val_joinPair : 0x10000 ≤ (joinPair hi lo).val := by
  rw [val_joinPair hhi hlo]
  omega

theorem highPart_joinPair : (joinPair hi lo).highPart = hi := by
  have hjoin := val_joinPair hhi hlo
  have hpart := val_highPart (le_val_joinPair hhi hlo)
  rw [isHighSurrogate_iff] at hhi
  rw [isLowSurrogate_iff] at hlo
  refine CodePoint.ext (hpart.trans ?_)
  omega

theorem lowPart_joinPair : (joinPair hi lo).lowPart = lo := by
  have hjoin := val_joinPair hhi hlo
  have hpart := val_lowPart (joinPair hi lo)
  rw [isHighSurrogate_iff] at hhi
  rw [isLowSurrogate_iff] at hlo
  refine CodePoint.ext (hpart.trans ?_)
  omega

end Joined

/-- A character has one pair only. -/
theorem joinPair_inj {hi lo hi' lo' : CodePoint} (hhi : hi.isHighSurrogate = true)
    (hlo : lo.isLowSurrogate = true) (hhi' : hi'.isHighSurrogate = true)
    (hlo' : lo'.isLowSurrogate = true) (h : joinPair hi lo = joinPair hi' lo') :
    hi = hi' ∧ lo = lo' := by
  constructor
  · rw [← highPart_joinPair hhi hlo, h, highPart_joinPair hhi' hlo']
  · rw [← lowPart_joinPair hhi hlo, h, lowPart_joinPair hhi' hlo']

end CodePoint

namespace Text

/-! ### Reading one piece -/

theorem charactersFrom_cons {c : CodePoint} (h : c.isSurrogate = false) (k : Nat) (t : Text) :
    charactersFrom k (c :: t) = (charactersFrom (k + 1) t).map (c :: ·) := by
  rw [charactersFrom.eq_def]
  simp only [h, Bool.false_eq_true, if_false]

theorem charactersFrom_pair {hi lo : CodePoint} (hhi : hi.isHighSurrogate = true)
    (hlo : lo.isLowSurrogate = true) (k : Nat) (t : Text) :
    charactersFrom k (hi :: lo :: t) =
      (charactersFrom (k + 2) t).map (CodePoint.joinPair hi lo :: ·) := by
  rw [charactersFrom, if_pos (CodePoint.isSurrogate_of_isHighSurrogate hhi)]
  simp only [hhi, hlo, Bool.and_self, if_true]

/-! ### Encodings -/

/-- Surrogates that stand for a character are its pair. -/
theorem Encodes.joined {hi lo : CodePoint} (hhi : hi.isHighSurrogate = true)
    (hlo : lo.isLowSurrogate = true) {t cs : Text} (h : t.Encodes cs) :
    Encodes (hi :: lo :: t) (CodePoint.joinPair hi lo :: cs) := by
  have hpair := Encodes.pair (CodePoint.le_val_joinPair hhi hlo) h
  rwa [CodePoint.highPart_joinPair hhi hlo, CodePoint.lowPart_joinPair hhi hlo] at hpair

theorem charactersFrom_of_encodes {t cs : Text} (h : t.Encodes cs) (k : Nat) :
    charactersFrom k t = .ok cs := by
  induction h generalizing k with
  | nil => rfl
  | character hc _ ih => rw [charactersFrom_cons hc, ih, Except.map]
  | pair hc _ ih =>
    rw [charactersFrom_pair (CodePoint.isHighSurrogate_highPart hc)
      (CodePoint.isLowSurrogate_lowPart _), ih, CodePoint.joinPair_parts hc, Except.map]

/-- What is read is encoded, piece by piece: no other pieces are read. -/
theorem encodes_of_charactersFrom {t cs : Text} {k : Nat} (h : charactersFrom k t = .ok cs) :
    t.Encodes cs := by
  fun_induction charactersFrom k t generalizing cs with
  | case1 =>
    cases h
    exact .nil
  | case2 => cases h
  | case3 k hi _ lo rest hpair ih =>
    obtain ⟨ds, hds, rfl⟩ := map_eq_ok_iff.mp h
    obtain ⟨hhi, hlo⟩ := Bool.and_eq_true_iff.mp hpair
    exact .joined hhi hlo (ih hds)
  | case4 => cases h
  | case5 k c rest hc ih =>
    obtain ⟨ds, hds, rfl⟩ := map_eq_ok_iff.mp h
    exact .character (Bool.eq_false_iff.mpr hc) (ih hds)

theorem characters_eq_ok_iff {t cs : Text} : t.characters = .ok cs ↔ t.Encodes cs :=
  ⟨encodes_of_charactersFrom, fun h => charactersFrom_of_encodes h 0⟩

theorem Encodes.not_isSurrogate {t cs : Text} (h : t.Encodes cs) :
    ∀ c ∈ cs, c.isSurrogate = false := by
  induction h with
  | nil => exact fun c hc => absurd hc List.not_mem_nil
  | character hc _ ih => exact List.forall_mem_cons.mpr ⟨hc, ih⟩
  | pair hc _ ih => exact List.forall_mem_cons.mpr ⟨CodePoint.isSurrogate_of_great hc, ih⟩

/-- Characters can be written as themselves. -/
theorem encodes_self {cs : Text} (h : ∀ c ∈ cs, c.isSurrogate = false) : cs.Encodes cs := by
  induction cs with
  | nil => exact .nil
  | cons c cs ih =>
    obtain ⟨hc, hcs⟩ := List.forall_mem_cons.mp h
    exact .character hc (ih hcs)

/-! ### Counting pairs -/

theorem pairs_cons {c : CodePoint} (h : c.isHighSurrogate = false) (t : Text) :
    pairs (c :: t) = pairs t := by
  cases t with
  | nil => rfl
  | cons d t => simp [pairs, h]

theorem pairs_pair {hi lo : CodePoint} (hhi : hi.isHighSurrogate = true)
    (hlo : lo.isLowSurrogate = true) (t : Text) : pairs (hi :: lo :: t) = pairs t + 1 := by
  rw [← pairs_cons (CodePoint.isHighSurrogate_of_isLowSurrogate hlo) t]
  simp [pairs, hhi, hlo]

/-- A pair is one unit longer than its character. -/
theorem Encodes.length_eq {t cs : Text} (h : t.Encodes cs) : t.length = cs.length + t.pairs := by
  induction h with
  | nil => rfl
  | character hc _ ih =>
    rw [pairs_cons (CodePoint.isHighSurrogate_of_not_isSurrogate hc), List.length_cons,
      List.length_cons]
    omega
  | pair hc _ ih =>
    rw [pairs_pair (CodePoint.isHighSurrogate_highPart hc) (CodePoint.isLowSurrogate_lowPart _),
      List.length_cons, List.length_cons, List.length_cons]
    omega

end Text

/-! ### Sources -/

namespace Source

theorem items_ofCharacters (cs : Text) :
    (ofCharacters cs).items = cs.map Value.ofCodePoint ++ [.eot] := rfl

theorem ofCharacters_eq_of_items {s : Source} {cs : Text}
    (h : s.items = cs.map Value.ofCodePoint ++ [.eot]) : s = ofCharacters cs := by
  obtain ⟨body, hbody⟩ := s
  have hitems : body ++ [.eot] = cs.map Value.ofCodePoint ++ [.eot] := h
  obtain rfl := List.append_cancel_right hitems
  rfl

theorem decode_eq_ok_iff {t cs : Text} : decode t = .ok (ofCharacters cs) ↔ t.Encodes cs := by
  rw [← Text.characters_eq_ok_iff]
  constructor
  · intro h
    obtain ⟨ds, hds, hsource⟩ := decode_eq_ok h
    have hinj : ∀ c d, Value.ofCodePoint c = Value.ofCodePoint d → c = d := by
      rintro c d hcd
      cases hcd
      rfl
    rw [hds, (List.map_inj_right hinj).mp (congrArg Source.body hsource)]
  · intro h
    rw [decode, h, Except.map]

/-- A source of characters comes back from its text. -/
theorem decode_toText {cs : Text} (h : ∀ c ∈ cs, c.isSurrogate = false) :
    ∃ body, (ofCharacters cs).toText = .ok body ∧ (∀ c ∈ body, c.isSurrogate = false) ∧
      ∃ r, decode body = .ok r ∧ r.same (ofCharacters cs) = true :=
  ⟨cs, toText_ofCharacters cs, h, ofCharacters cs, decode_eq_ok_iff.mpr (Text.encodes_self h),
    same_refl _⟩

/-- Elements that are characters are those of a text. -/
theorem eq_ofCharacters {s : Source}
    (h : ∀ v ∈ s.body, ∃ c : CodePoint, v = .ofCodePoint c ∧ c.isSurrogate = false) :
    ∃ cs : Text, s = ofCharacters cs ∧ ∀ c ∈ cs, c.isSurrogate = false := by
  obtain ⟨body, hbody⟩ := s
  induction body with
  | nil => exact ⟨[], rfl, fun c hc => absurd hc List.not_mem_nil⟩
  | cons v vs ih =>
    obtain ⟨⟨c, rfl, hc⟩, hvs⟩ := List.forall_mem_cons.mp h
    obtain ⟨cs, hsource, hcs⟩ := ih (List.forall_mem_cons.mp hbody).2 hvs
    obtain rfl : vs = cs.map Value.ofCodePoint := congrArg Source.body hsource
    exact ⟨c :: cs, rfl, List.forall_mem_cons.mpr ⟨hc, hcs⟩⟩

end Source

/-- **Decoding reads exactly the encodings.** A text gives a source of some characters, closed by
the end marker, if and only if it encodes them. So pairs stand for the characters beyond U+FFFF,
each for its own; every pair makes the source one element shorter; and what is read holds no
surrogate and is read again as it is. -/
theorem decode_iff_encodes :
    (∀ t cs : Text,
      (∃ s, Source.decode t = .ok s ∧ s.items = cs.map Value.ofCodePoint ++ [.eot]) ↔
        t.Encodes cs) ∧
    (∀ hi lo : CodePoint, hi.isHighSurrogate = true → lo.isLowSurrogate = true →
      Source.decode [hi, lo] = .ok (Source.ofCharacters [CodePoint.joinPair hi lo]) ∧
        0x10000 ≤ (CodePoint.joinPair hi lo).val ∧ (CodePoint.joinPair hi lo).val ≤ 0x10FFFF) ∧
    (∀ hi lo hi' lo' : CodePoint, hi.isHighSurrogate = true → lo.isLowSurrogate = true →
      hi'.isHighSurrogate = true → lo'.isLowSurrogate = true →
      CodePoint.joinPair hi lo = CodePoint.joinPair hi' lo' → hi = hi' ∧ lo = lo') ∧
    (∀ (t : Text) (s : Source), Source.decode t = .ok s →
      t.length + 1 = s.length + t.pairs ∧
      ∃ body, s.toText = .ok body ∧ (∀ c ∈ body, c.isSurrogate = false) ∧
        ∃ r, Source.decode body = .ok r ∧ r.same s = true) ∧
    (∀ s : Source,
      (∀ v ∈ s.body, ∃ c : CodePoint, v = .ofCodePoint c ∧ c.isSurrogate = false) →
      ∃ body, s.toText = .ok body ∧ ∃ r, Source.decode body = .ok r ∧ r.same s = true) := by
  refine ⟨fun t cs => ?_, fun hi lo hhi hlo => ?_, ?_, fun t s hs => ?_, fun s hs => ?_⟩
  · constructor
    · rintro ⟨s, hs, hitems⟩
      rw [Source.ofCharacters_eq_of_items hitems] at hs
      exact Source.decode_eq_ok_iff.mp hs
    · intro h
      exact ⟨_, Source.decode_eq_ok_iff.mpr h, Source.items_ofCharacters cs⟩
  · have hlt := (CodePoint.joinPair hi lo).val_lt
    exact ⟨Source.decode_eq_ok_iff.mpr (.joined hhi hlo .nil), CodePoint.le_val_joinPair hhi hlo,
      by omega⟩
  · intro hi lo hi' lo' hhi hlo hhi' hlo' h
    exact CodePoint.joinPair_inj hhi hlo hhi' hlo' h
  · obtain ⟨cs, -, rfl⟩ := Source.decode_eq_ok hs
    have hencodes := Source.decode_eq_ok_iff.mp hs
    refine ⟨?_, Source.decode_toText hencodes.not_isSurrogate⟩
    rw [hencodes.length_eq, Source.length, Source.length_items_ofCharacters]
    omega
  · obtain ⟨cs, rfl, hcs⟩ := Source.eq_ofCharacters hs
    obtain ⟨body, hbody, -, hr⟩ := Source.decode_toText hcs
    exact ⟨body, hbody, hr⟩

end Caret

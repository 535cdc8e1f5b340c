import Caret.Proofs.LoneSurrogates

/-!
# Decoding a text in parts

A text that can be decoded ends with a whole piece, so nothing at its end waits for a partner, and
what follows is decoded as it would be alone. Only the offset of a fault is counted from the start of
the whole text. Main statement: behind a text that is decoded, another text adds its own characters
or its own fault.
-/

namespace Caret

/-- The fault that is met when a text stands that many units further on. -/
def Fault.moved (n : Nat) : Fault → Fault
  | .loneSurrogate unit offset => .loneSurrogate unit (n + offset)
  | f => f

namespace Text

/-- Where a text begins shows in the offset of its fault only. -/
theorem charactersFrom_add (n k : Nat) (t : Text) :
    charactersFrom (n + k) t = (charactersFrom k t).mapError (Fault.moved n) := by
  have later {f : Text → Text} {r q : Except Fault Text} (h : q = r.mapError (Fault.moved n)) :
      q.map f = (r.map f).mapError (Fault.moved n) := by
    subst h
    cases r <;> rfl
  fun_induction charactersFrom k t with
  | case1 => rfl
  | case2 k c hc => rw [charactersFrom, if_pos hc]; rfl
  | case3 k hi hs lo rest hpair ih =>
    obtain ⟨hhi, hlo⟩ := Bool.and_eq_true_iff.mp hpair
    rw [charactersFrom_pair hhi hlo]
    exact later ih
  | case4 k c hs d rest hpair =>
    rw [charactersFrom, if_pos hs]
    simp only [hpair]
    rfl
  | case5 k c rest hc ih =>
    rw [charactersFrom_cons (Bool.eq_false_iff.mpr hc)]
    exact later ih

/-- Behind an encoding the decoder goes on with the rest: no piece of it reaches into the rest. -/
theorem charactersFrom_append {s cs : Text} (h : s.Encodes cs) (n : Nat) (t : Text) :
    charactersFrom n (s ++ t) = (charactersFrom (n + s.length) t).map (cs ++ ·) := by
  have both {r : Except Fault Text} (ds es : Text) :
      (r.map (es ++ ·)).map (ds ++ ·) = r.map (ds ++ es ++ ·) := by
    cases r with
    | error f => rfl
    | ok u => exact congrArg Except.ok (List.append_assoc ds es u).symm
  induction h generalizing n with
  | nil => cases h : charactersFrom n t <;> simp [h, Except.map]
  | @character c s cs hc _ ih =>
    rw [List.cons_append, charactersFrom_cons hc, ih, List.length_cons, Nat.add_right_comm]
    exact both [c] cs
  | @pair c s cs hc _ ih =>
    have hlength : n + 2 + s.length = n + (s.length + 1 + 1) := by omega
    rw [List.cons_append, List.cons_append,
      charactersFrom_pair (CodePoint.isHighSurrogate_highPart hc)
        (CodePoint.isLowSurrogate_lowPart _), CodePoint.joinPair_parts hc, ih, hlength]
    exact both [c] cs

theorem characters_append {s cs : Text} (h : s.characters = .ok cs) (t : Text) :
    (s ++ t).characters = (t.characters.mapError (Fault.moved s.length)).map (cs ++ ·) := by
  have hmoved := charactersFrom_add s.length 0 t
  rw [characters, charactersFrom_append (characters_eq_ok_iff.mp h), Nat.zero_add]
  exact congrArg (Except.map (cs ++ ·)) hmoved

end Text

namespace Source

theorem items_ofCharacters_append (cs ds : Text) : (ofCharacters (cs ++ ds)).items =
    (ofCharacters cs).items.dropLast ++ (ofCharacters ds).items := by
  rw [items_ofCharacters, items_ofCharacters, items_ofCharacters, List.dropLast_concat,
    List.map_append, List.append_assoc]

/-- **Decoding goes part by part.** Behind a text that is decoded, a text which is decoded as well
adds its elements, in the place of the end marker; and one that is refused for a surrogate is refused
for the same one, at its offset in the whole. -/
theorem decode_append {a : Text} {s : Source} (h : decode a = .ok s) (b : Text) :
    (∀ t, decode b = .ok t →
      ∃ r, decode (a ++ b) = .ok r ∧ r.items = s.items.dropLast ++ t.items) ∧
    ∀ f, decode b = .error f → ∃ c k, f = .loneSurrogate c k ∧ b[k]? = some c ∧
      decode (a ++ b) = .error (.loneSurrogate c (a.length + k)) ∧
      (a ++ b)[a.length + k]? = some c := by
  obtain ⟨cs, hcs, rfl⟩ := decode_eq_ok h
  have hwhole := Text.characters_append hcs b
  constructor
  · intro t ht
    obtain ⟨ds, hds, rfl⟩ := decode_eq_ok ht
    rw [hds] at hwhole
    refine ⟨ofCharacters (cs ++ ds), ?_, items_ofCharacters_append cs ds⟩
    rw [decode, hwhole]
    rfl
  · intro f hf
    obtain ⟨k, c, hfirst, rfl⟩ := decode_eq_error hf
    rw [map_eq_error_iff.mp hf] at hwhole
    refine ⟨c, k, rfl, hfirst.unit, ?_, ?_⟩
    · rw [decode, hwhole]
      rfl
    · rw [List.getElem?_append_right (Nat.le_add_right ..), Nat.add_sub_cancel_left]
      exact hfirst.unit

/-- Behind a pair, a low surrogate stands alone, and a character and a pair go on. -/
theorem decode_append_pair :
    let a := text "x" ++ [CodePoint.ofNat 0xD83D, CodePoint.ofNat 0xDE00]
    let b := text "y" ++ [CodePoint.ofNat 0xD83D, CodePoint.ofNat 0xDE01]
    let low := CodePoint.ofNat 0xDE00
    (∃ r, decode (a ++ b) = .ok r ∧ r.items =
      [.ofCodePoint (CodePoint.ofChar 'x'), .ofCodePoint (CodePoint.ofNat 0x1F600)] ++
        (ofCharacters (text "y" ++ [CodePoint.ofNat 0x1F601])).items) ∧
    decode (a ++ [low]) = .error (.loneSurrogate low 3) := by
  intro a b low
  have ha : decode a = .ok (ofCharacters (text "x" ++ [CodePoint.ofNat 0x1F600])) := rfl
  obtain ⟨hparts, -⟩ := decode_append ha b
  obtain ⟨-, hrefused⟩ := decode_append ha [low]
  obtain ⟨c, k, hf, -, hwhole, -⟩ := hrefused (.loneSurrogate low 0) rfl
  obtain ⟨rfl, rfl⟩ := Fault.loneSurrogate.inj hf
  exact ⟨hparts _ rfl, hwhole⟩

end Source

end Caret

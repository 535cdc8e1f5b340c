import Caret.Source.Basic

/-!
# Decoding text into a source

A high surrogate directly before a low one stands for one character beyond U+FFFF. Any other
surrogate stands for nothing, and the first such refuses the text. `decode` is `chars_with_eot`, and
one turn of it is `_char_range_at`.
-/

namespace Caret

namespace Text

/-- The characters of a text whose first unit stands at `offset`. -/
def charactersFrom (offset : Nat) : Text → Except Fault Text
  | [] => .ok []
  | c :: rest =>
    if c.isSurrogate then
      match rest with
      | [] => .error (.loneSurrogate c offset)
      | d :: rest =>
        if c.isHighSurrogate && d.isLowSurrogate then
          (charactersFrom (offset + 2) rest).map (CodePoint.joinPair c d :: ·)
        else .error (.loneSurrogate c offset)
    else (charactersFrom (offset + 1) rest).map (c :: ·)

def characters (t : Text) : Except Fault Text := charactersFrom 0 t

end Text

namespace Source

def ofCharacters (cs : Text) : Source :=
  ⟨cs.map Value.ofCodePoint, by
    intro v hv
    obtain ⟨c, _, rfl⟩ := List.mem_map.mp hv
    rfl⟩

theorem items_ofCharacters_cons (c : CodePoint) (cs : Text) :
    (ofCharacters (c :: cs)).items = Value.ofCodePoint c :: (ofCharacters cs).items := rfl

theorem length_items_ofCharacters (cs : Text) : (ofCharacters cs).items.length = cs.length + 1 := by
  simp [items, ofCharacters]

theorem joinTexts_map_ofCodePoint (bad : Nat → Value → Fault) (n : Nat) (cs : Text) :
    joinTexts bad n (cs.map Value.ofCodePoint) = .ok cs := by
  induction cs generalizing n with
  | nil => rfl
  | cons c cs ih =>
    rw [List.map_cons, Value.ofCodePoint, joinTexts, ih]
    rfl

theorem toText_ofCharacters (cs : Text) : (ofCharacters cs).toText = .ok cs :=
  joinTexts_map_ofCodePoint _ _ cs

def decode (t : Text) : Except Fault Source := t.characters.map ofCharacters

theorem decode_eq_ok {t : Text} {s : Source} (h : decode t = .ok s) :
    ∃ cs, t.characters = .ok cs ∧ s = ofCharacters cs := by
  rw [decode] at h
  cases hc : t.characters with
  | error f =>
    rw [hc] at h
    cases h
  | ok cs =>
    rw [hc] at h
    exact ⟨cs, rfl, (Except.ok.inj h).symm⟩

end Source

end Caret

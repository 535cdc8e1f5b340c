import Caret.Json.Reader
import Caret.Proofs.Decoding

/-!
# Texts in JSON

A text is written between quotes, and each character is itself or an escape. The escape of a character
beyond U+FFFF names its two surrogates, which are read as one character again, as are two surrogates
that stand in a row in the text. Main statement: a text is read back from its written form up to such
pairs, and the written form is printable ASCII.
-/

namespace Caret

theorem CodePoint.ofNat_val (c : CodePoint) : ofNat c.val = c := CodePoint.ext (val_ofNat c.val_lt)

namespace Json

open CodePoint (backslash doubleQuote)

/-! ### Escapes read back -/

/-- What a character is written as: itself or its surrogates. -/
def units (c : CodePoint) : Text := if c.val < 0x10000 then [c] else [c.highPart, c.lowPart]

theorem hexDigit?_hexDigit {n : Nat} (h : n < 16) : hexDigit? (Text.hexDigit 'a' n) = some n := by
  have hall : ∀ k < 16, hexDigit? (Text.hexDigit 'a' k) = some k := by decide
  exact hall n h

theorem readUnits?_escapeUnit {n : Nat} (h : n < 0x10000) (t : Text) :
    readUnits? (escapeUnit n ++ t) =
      (readUnits? t).map fun p => (CodePoint.ofNat n :: p.1, p.2) := by
  have hunit : hexUnit? (Text.hexDigit 'a' (n / 16 / 16 / 16 % 16))
      (Text.hexDigit 'a' (n / 16 / 16 % 16)) (Text.hexDigit 'a' (n / 16 % 16))
      (Text.hexDigit 'a' (n % 16)) = some (CodePoint.ofNat n) := by
    have hsum : ((n / 16 / 16 / 16 % 16 * 16 + n / 16 / 16 % 16) * 16 + n / 16 % 16) * 16 +
        n % 16 = n := by omega
    rw [hexUnit?, hexDigit?_hexDigit (by omega), hexDigit?_hexDigit (by omega),
      hexDigit?_hexDigit (by omega), hexDigit?_hexDigit (by omega)]
    simp only [Option.bind_eq_bind, Option.bind_some, hsum]
    rfl
  have hslash : backslash ≠ doubleQuote := by decide
  rw [escapeUnit, readUnits?.eq_def]
  simp only [Text.hex, List.nil_append, List.cons_append, if_neg hslash, if_true, hunit,
    Option.bind_some]

/-- A short escape stands for one code point. -/
theorem readUnits?_short {e c : CodePoint} (he : e ≠ CodePoint.ofChar 'u')
    (h : shortEscape? e = some c) (t : Text) :
    readUnits? (backslash :: e :: t) = (readUnits? t).map fun p => (c :: p.1, p.2) := by
  have hslash : backslash ≠ doubleQuote := by decide
  rw [readUnits?.eq_def]
  simp only [if_neg hslash, if_true, if_neg he, h, Option.bind_some]

theorem readUnits?_self {c : CodePoint} (hquote : c ≠ doubleQuote) (hslash : c ≠ backslash)
    (hlow : 32 ≤ c.val) (t : Text) :
    readUnits? (c :: t) = (readUnits? t).map fun p => (c :: p.1, p.2) := by
  rw [readUnits?.eq_def]
  simp only [if_neg hquote, if_neg hslash, if_neg (Nat.not_lt.mpr hlow)]

/-- A character beyond U+FFFF is escaped as its surrogates. -/
theorem escape_of_great {c : CodePoint} (h : 0x10000 ≤ c.val) :
    escape c = escapeUnit c.highPart.val ++ escapeUnit c.lowPart.val := by
  have hne : ∀ d : CodePoint, d.val < 0x10000 → (c == d) = false := by
    intro d hd
    rw [beq_eq_false_iff_ne]
    rintro rfl
    omega
  have hprint : c.isPrint = false := by
    rw [Bool.eq_false_iff, ne_eq, CodePoint.isPrint_iff]
    omega
  have hbackspace : c.val ≠ 8 := by omega
  have hfeed : c.val ≠ 12 := by omega
  rw [escape, hne doubleQuote (by decide), hne backslash (by decide),
    hne (CodePoint.ofChar '\n') (by decide), hne (CodePoint.ofChar '\r') (by decide),
    hne (CodePoint.ofChar '\t') (by decide), hprint, if_neg hbackspace, if_neg hfeed,
    if_neg (Nat.not_lt.mpr h)]
  rfl

/-- The escape of a character is read as its units. -/
theorem readUnits?_escape (c : CodePoint) (t : Text) :
    readUnits? (escape c ++ t) = (readUnits? t).map fun p => (units c ++ p.1, p.2) := by
  by_cases hsmall : c.val < 0x10000
  · have hself := CodePoint.ofNat_val c
    rw [units, if_pos hsmall]
    unfold escape
    split
    · next hmark =>
      obtain rfl | rfl : c = doubleQuote ∨ c = backslash := by simpa using hmark
      · exact readUnits?_short (by decide) rfl t
      · exact readUnits?_short (by decide) rfl t
    · next hmark =>
      split
      · next hc =>
        obtain rfl := eq_of_beq hc
        exact readUnits?_short (by decide) rfl t
      split
      · next hc =>
        obtain rfl := eq_of_beq hc
        exact readUnits?_short (by decide) rfl t
      split
      · next hc =>
        obtain rfl := eq_of_beq hc
        exact readUnits?_short (by decide) rfl t
      split
      · next hc =>
        rw [← hself, hc]
        exact readUnits?_short (by decide) rfl t
      split
      · next hc =>
        rw [← hself, hc]
        exact readUnits?_short (by decide) rfl t
      split
      · next hprint =>
        obtain ⟨hquote, hslash⟩ : c ≠ doubleQuote ∧ c ≠ backslash := by simpa using hmark
        exact readUnits?_self hquote hslash (CodePoint.isPrint_iff.mp hprint).1 t
      · have hread := readUnits?_escapeUnit hsmall t
        rwa [hself] at hread
  · have hlt := c.val_lt
    have hhigh := CodePoint.val_highPart (Nat.not_lt.mp hsmall)
    have hlow := CodePoint.val_lowPart c
    rw [escape_of_great (Nat.not_lt.mp hsmall), List.append_assoc,
      readUnits?_escapeUnit (by omega), readUnits?_escapeUnit (by omega), units, if_neg hsmall,
      CodePoint.ofNat_val, CodePoint.ofNat_val, Option.map_map]
    rfl

theorem readUnits?_flatMap_escape (t rest : Text) :
    readUnits? (t.flatMap escape ++ doubleQuote :: rest) = some (t.flatMap units, rest) := by
  induction t with
  | nil =>
    rw [List.flatMap_nil, List.nil_append, readUnits?.eq_def]
    simp only [if_true]
    rfl
  | cons c t ih =>
    rw [List.flatMap_cons, List.append_assoc, readUnits?_escape, ih]
    rfl

/-- Units are joined to the characters that they are the units of. -/
theorem addUnit_units (c : CodePoint) (more : Text) :
    (units c).foldr addUnit more = addUnit c more := by
  rw [units]
  by_cases hsmall : c.val < 0x10000
  · rw [if_pos hsmall]
    rfl
  · have hgreat : 0x10000 ≤ c.val := Nat.not_lt.mp hsmall
    have hc := CodePoint.isHighSurrogate_of_not_isSurrogate (CodePoint.isSurrogate_of_great hgreat)
    have hhigh := CodePoint.isHighSurrogate_highPart hgreat
    have hlow := CodePoint.isLowSurrogate_lowPart c
    have hpart := CodePoint.isHighSurrogate_of_isLowSurrogate hlow
    rw [if_neg hsmall]
    show addUnit c.highPart (addUnit c.lowPart more) = _
    have hjoin : addUnit c.highPart (c.lowPart :: more) = c :: more := by
      rw [addUnit, hhigh, hlow, CodePoint.joinPair_parts hgreat]
      rfl
    have hlone : ∀ d : CodePoint, d.isHighSurrogate = false → addUnit d more = d :: more := by
      intro d hd
      cases more with
      | nil => rfl
      | cons e more =>
        rw [addUnit, hd]
        rfl
    rw [hlone _ hpart, hjoin, hlone c hc]

theorem joinPairs_units (t : Text) : joinPairs (t.flatMap units) = joinPairs t := by
  induction t with
  | nil => rfl
  | cons c t ih =>
    have hrest : (t.flatMap units).foldr addUnit [] = t.foldr addUnit [] := ih
    rw [joinPairs, List.flatMap_cons, List.foldr_append, hrest, addUnit_units]
    rfl

/-- A text without pairs of surrogates stays as it is. -/
theorem joinPairs_eq_self {t : Text} (h : t.pairs = 0) : joinPairs t = t := by
  induction t with
  | nil => rfl
  | cons c t ih =>
    cases t with
    | nil => rfl
    | cons d t =>
      have hpairs : Text.pairs (c :: d :: t) =
          Text.pairs (d :: t) + if c.isHighSurrogate && d.isLowSurrogate then 1 else 0 := by
        simp only [Text.pairs, List.tail_cons, List.zip_cons_cons, List.countP_cons]
      have hapart : (c.isHighSurrogate && d.isLowSurrogate) = false := by
        cases hpair : c.isHighSurrogate && d.isLowSurrogate with
        | false => rfl
        | true =>
          rw [hpairs, hpair, if_pos rfl] at h
          omega
      have hrest : joinPairs (d :: t) = d :: t := ih (by omega)
      have hjoin : joinPairs (c :: d :: t) = addUnit c (joinPairs (d :: t)) := rfl
      rw [hjoin, hrest, addUnit, hapart]
      rfl

theorem readText?_string (t rest : Text) :
    readText? (t.flatMap escape ++ doubleQuote :: rest) = some (joinPairs t, rest) := by
  rw [readText?, readUnits?_flatMap_escape, Option.map_some, joinPairs_units]

theorem string_append (t rest : Text) :
    string t ++ rest = doubleQuote :: (t.flatMap escape ++ doubleQuote :: rest) := by
  simp [string]

theorem readName?_string (t rest : Text) :
    readName? (string t ++ rest) = some (joinPairs t, rest) := by
  rw [string_append, readName?, if_pos rfl, readText?_string]

/-! ### Printable ASCII -/

/-- Every code point of a text is printable ASCII. -/
def Printed (t : Text) : Prop := ∀ c ∈ t, c.isPrint = true

instance (t : Text) : Decidable (Printed t) :=
  inferInstanceAs (Decidable (∀ c ∈ t, c.isPrint = true))

theorem Printed.append {s t : Text} (hs : Printed s) (ht : Printed t) : Printed (s ++ t) := by
  intro c hc
  rcases List.mem_append.mp hc with hc | hc
  · exact hs c hc
  · exact ht c hc

theorem printed_hex (width n : Nat) : Printed (Text.hex 'a' width n) := by
  have hdigit : ∀ k < 16, (Text.hexDigit 'a' k).isPrint = true := by decide
  induction width generalizing n with
  | zero => exact nofun
  | succ width ih =>
    refine (ih (n / 16)).append fun c hc => ?_
    obtain rfl := List.mem_singleton.mp hc
    exact hdigit (n % 16) (Nat.mod_lt n (by decide))

theorem printed_escapeUnit (n : Nat) : Printed (escapeUnit n) := by
  have hmark : Printed [backslash, CodePoint.ofChar 'u'] := by decide
  exact hmark.append (printed_hex 4 n)

theorem printed_escape (c : CodePoint) : Printed (escape c) := by
  unfold escape
  split
  · next hmark =>
    obtain rfl | rfl : c = doubleQuote ∨ c = backslash := by simpa using hmark
    · decide
    · decide
  split
  · decide
  split
  · decide
  split
  · decide
  split
  · decide
  split
  · decide
  split
  · next hprint =>
    intro d hd
    obtain rfl := List.mem_singleton.mp hd
    exact hprint
  split
  · exact printed_escapeUnit c.val
  · exact (printed_escapeUnit _).append (printed_escapeUnit _)

theorem printed_string (t : Text) : Printed (string t) := by
  have hquote : Printed [doubleQuote] := by decide
  have hbody : Printed (t.flatMap escape) := by
    intro c hc
    obtain ⟨d, -, hc⟩ := List.mem_flatMap.mp hc
    exact printed_escape d c hc
  exact hquote.append (hbody.append hquote)

/-- A printed text is a single line. -/
theorem Printed.unbroken {t : Text} (h : Printed t) : ∀ c ∈ t, c.isLineBreak = false :=
  fun c hc => CodePoint.isLineBreak_of_isPrint (h c hc)

end Json

end Caret

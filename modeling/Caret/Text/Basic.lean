import Caret.CodePoint

/-!
# Text

Text is a list of code points; lengths, indices and offsets count code points. This file holds the
numerals (decimal with as many digits as it takes, hexadecimal of a fixed width, and of any base),
padding to a width, and the searches that the other modules share.
-/

namespace Caret

abbrev Text := List CodePoint

def text (s : String) : Text := s.toList.map CodePoint.ofChar

@[simp] theorem length_text (s : String) : (text s).length = s.toList.length := by simp [text]

namespace Text

/-! ### Numerals -/

def digit (n : Nat) : CodePoint := ⟨48 + n % 10, by omega⟩

/-- A numeral before a text. -/
def numeralBefore (rest : Text) (n : Nat) : Text :=
  if n < 10 then digit n :: rest else numeralBefore (digit n :: rest) (n / 10)
termination_by n

def ofNat (n : Nat) : Text := numeralBefore [] n

theorem numeralBefore_eq (rest : Text) (n : Nat) : numeralBefore rest n = ofNat n ++ rest := by
  induction n using Nat.strongRecOn generalizing rest with
  | ind n ih =>
    unfold ofNat
    rw [numeralBefore, numeralBefore.eq_def []]
    by_cases h : n < 10
    · simp [h]
    · rw [if_neg h, if_neg h, ih (n / 10) (by omega), ih (n / 10) (by omega)]
      simp

/-- The last digit stands after the numeral of a tenth. -/
theorem ofNat_eq (n : Nat) :
    ofNat n = if n < 10 then [digit n] else ofNat (n / 10) ++ [digit n] := by
  rw [ofNat, numeralBefore]
  by_cases h : n < 10
  · simp [h]
  · rw [if_neg h, if_neg h, numeralBefore_eq]

theorem isPrint_digit (n : Nat) : (digit n).isPrint = true :=
  CodePoint.isPrint_iff.mpr ⟨by unfold digit; dsimp only; omega, by unfold digit; dsimp only; omega⟩

theorem isPrint_of_mem_ofNat {n : Nat} {c : CodePoint} (h : c ∈ ofNat n) : c.isPrint = true := by
  induction n using Nat.strongRecOn with
  | ind n ih =>
    rw [ofNat_eq] at h
    split at h
    · obtain rfl := List.mem_singleton.mp h
      exact isPrint_digit n
    · rcases List.mem_append.mp h with h | h
      · exact ih (n / 10) (by omega) h
      · obtain rfl := List.mem_singleton.mp h
        exact isPrint_digit n

/-- The number that decimal digits name. -/
def toNat (digits : Text) : Nat := digits.foldl (fun n d => 10 * n + (d.val - 48)) 0

def ofInt : Int → Text
  | .ofNat n => ofNat n
  | .negSucc n => CodePoint.ofChar '-' :: ofNat (n + 1)

def hexDigit (ten : Char) (n : Nat) : CodePoint :=
  CodePoint.ofNat (if n < 10 then 48 + n else ten.toNat + (n - 10))

/-- The last `width` hexadecimal digits; `ten` is the digit ten, and so fixes the case. -/
def hex (ten : Char) : Nat → Nat → Text
  | 0, _ => []
  | width + 1, n => hex ten width (n / 16) ++ [hexDigit ten (n % 16)]

/-- The numeral in a base, without leading zeros. -/
def inBase (ten : Char) (base n : Nat) : Text :=
  if base < 2 ∨ n < base then [hexDigit ten n]
  else inBase ten base (n / base) ++ [hexDigit ten (n % base)]
termination_by n
decreasing_by exact Nat.div_lt_self (by omega) (by omega)

/-! ### Widths -/

/-- No memory holds a text of so many code points. -/
def lengthLimit : Nat := 68719476736

def padLeft (fill : CodePoint) (width : Nat) (t : Text) : Text :=
  List.replicate (width - t.length) fill ++ t

def padRight (fill : CodePoint) (width : Nat) (t : Text) : Text :=
  t ++ List.replicate (width - t.length) fill

/-! ### Units -/

/-- The number of bytes of a code point as UTF-8; a surrogate that names a byte is that byte. -/
def utf8Units (c : CodePoint) : Nat :=
  if c.val < 0x80 then 1
  else if c.val < 0x800 then 2
  else if c.namesByte then 1
  else if c.val < 0x10000 then 3
  else 4

def utf8Size (t : Text) : Nat := t.foldl (fun n c => n + utf8Units c) 0

/-- The offset and the end of the first surrogates in a row that have no form as UTF-8, where those
that name bytes have one if `bytes` is set. The text begins at an offset. -/
def unencodableFrom (bytes : Bool) (offset : Nat) : Text → Option (Nat × Nat)
  | [] => none
  | c :: rest =>
    if c.isSurrogate && !(bytes && c.namesByte) then
      some (offset, offset + 1 + (rest.takeWhile CodePoint.isSurrogate).length)
    else unencodableFrom bytes (offset + 1) rest

/-! ### Order, parts and search -/

def commaSeparated (parts : List Text) : Text := List.intercalate (text ", ") parts

/-- Dictionary order by code point. -/
def le : Text → Text → Bool
  | [], _ => true
  | _ :: _, [] => false
  | a :: s, b :: t => decide (a.val < b.val) || (a == b && le s t)

/-- The parts before and after the last occurrence of `c`. -/
def splitLast? (c : CodePoint) (t : Text) : Option (Text × Text) :=
  match t.reverse.dropWhile (· != c) with
  | [] => none
  | _ :: before => some (before.reverse, (t.reverse.takeWhile (· != c)).reverse)

def contains (t : Text) (c : CodePoint) : Bool := t.any (· == c)

/-- The pieces between the occurrences of `c`, empty ones included. -/
def pieces (c : CodePoint) : Text → List Text
  | [] => [[]]
  | a :: t =>
    match pieces c t with
    | [] => [[a]]
    | p :: ps => if a = c then [] :: p :: ps else (a :: p) :: ps

theorem pieces_ne_nil (c : CodePoint) (t : Text) : pieces c t ≠ [] := by
  cases t with
  | nil => simp [pieces]
  | cons a t =>
    rw [pieces]
    split
    · simp
    · split <;> simp

/-- A text in which `c` does not occur is one piece. -/
theorem pieces_of_not_mem {c : CodePoint} {t : Text} (h : c ∉ t) : pieces c t = [t] := by
  induction t with
  | nil => rfl
  | cons a t ih =>
    rw [List.mem_cons, not_or] at h
    rw [pieces, ih h.2]
    exact if_neg fun hac => h.1 hac.symm

theorem not_mem_of_mem_pieces {c : CodePoint} {t p : Text} (h : p ∈ pieces c t) : c ∉ p := by
  induction t generalizing p with
  | nil =>
    obtain rfl := List.mem_singleton.mp h
    exact List.not_mem_nil
  | cons a t ih =>
    obtain ⟨q, qs, hq⟩ := List.exists_cons_of_ne_nil (pieces_ne_nil c t)
    rw [hq] at ih
    simp only [pieces, hq] at h
    by_cases ha : a = c
    · rw [if_pos ha] at h
      rcases List.mem_cons.mp h with rfl | h
      · exact List.not_mem_nil
      · exact ih h
    · rw [if_neg ha] at h
      rcases List.mem_cons.mp h with rfl | h
      · intro hc
        rcases List.mem_cons.mp hc with heq | hc
        · exact ha heq.symm
        · exact ih List.mem_cons_self hc
      · exact ih (List.mem_cons_of_mem q h)

/-- An occurrence of `c` parts the pieces before it from those after it. -/
theorem pieces_append_cons (c : CodePoint) (s t : Text) :
    pieces c (s ++ c :: t) = pieces c s ++ pieces c t := by
  induction s with
  | nil =>
    obtain ⟨p, ps, hp⟩ := List.exists_cons_of_ne_nil (pieces_ne_nil c t)
    simp [pieces, hp]
  | cons a s ih =>
    obtain ⟨p, ps, hp⟩ := List.exists_cons_of_ne_nil (pieces_ne_nil c s)
    rw [List.cons_append, pieces, pieces, ih, hp]
    by_cases ha : a = c
    · simp [ha]
    · simp [ha]

/-- What is left of `t` after the text `p`, when `t` begins with `p`. -/
def after? : Text → Text → Option Text
  | [], t => some t
  | _ :: _, [] => none
  | a :: p, b :: t => if a = b then after? p t else none

/-- The offset of the first occurrence of `p`. -/
def find? (p : Text) : Text → Option Nat
  | [] => if p.isEmpty then some 0 else none
  | c :: t => if (after? p (c :: t)).isSome then some 0 else (find? p t).map (· + 1)

/-- The occurrences of `p` that do not overlap, where the first `skip` code points of the text
belong to one that is counted already. -/
def countFrom (p : Text) : Nat → Text → Nat
  | _, [] => 0
  | skip + 1, _ :: t => countFrom p skip t
  | 0, c :: t =>
    if (after? p (c :: t)).isSome then countFrom p (p.length - 1) t + 1 else countFrom p 0 t

/-- The number of occurrences of `p` that do not overlap. The empty text stands before every code
point and at the end. -/
def count (p t : Text) : Nat := if p.isEmpty then t.length + 1 else countFrom p 0 t

theorem splitLast?_eq_some {c : CodePoint} {t head tail : Text}
    (h : splitLast? c t = some (head, tail)) : t = head ++ c :: tail ∧ c ∉ tail := by
  have hsplit : t.reverse.takeWhile (· != c) ++ t.reverse.dropWhile (· != c) = t.reverse :=
    List.takeWhile_append_dropWhile
  unfold splitLast? at h
  cases hd : t.reverse.dropWhile (· != c) with
  | nil => simp [hd] at h
  | cons a before =>
    have hne : t.reverse.dropWhile (· != c) ≠ [] := by simp [hd]
    have ha : a = c := by
      have := List.head_dropWhile_not (· != c) hne
      simpa [hd] using this
    rw [hd] at h hsplit
    obtain ⟨rfl, rfl⟩ : before.reverse = head ∧ _ = tail := by simpa using h
    constructor
    · have := congrArg List.reverse hsplit
      simpa [ha] using this.symm
    · intro hc
      have := List.all_eq_true.mp List.all_takeWhile c (List.mem_reverse.mp hc)
      simp at this

end Text

end Caret

/-!
# Code points

A code point is a number below 0x110000. Surrogates count as code points: text read from outside
may hold one that stands alone. The character classes of this file know ASCII only; the classes of
the full character set are in `Caret.Text.Printable`, `Caret.Text.Space`, `Caret.Text.Word` and
`Caret.Text.Cased`.
-/

namespace Caret

@[ext] structure CodePoint where
  val : Nat
  val_lt : val < 0x110000
deriving DecidableEq

namespace CodePoint

def ofChar (c : Char) : CodePoint :=
  ⟨c.toNat, by
    have h : c.toNat < 0xD800 ∨ 0xDFFF < c.toNat ∧ c.toNat < 0x110000 := c.valid
    omega⟩

instance : Coe Char CodePoint := ⟨ofChar⟩

@[simp] theorem val_ofChar (c : Char) : (ofChar c).val = c.toNat := rfl

/-- Numbers that name no code point become the replacement character. -/
def ofNat (n : Nat) : CodePoint :=
  if h : n < 0x110000 then ⟨n, h⟩ else ⟨0xFFFD, by decide⟩

theorem val_ofNat {n : Nat} (h : n < 0x110000) : (ofNat n).val = n := by simp [ofNat, h]

/-! ### Marks -/

def singleQuote : CodePoint := ⟨39, by decide⟩

def doubleQuote : CodePoint := ⟨34, by decide⟩

def backslash : CodePoint := ⟨92, by decide⟩

def leftBrace : CodePoint := ⟨123, by decide⟩

def rightBrace : CodePoint := ⟨125, by decide⟩

/-! ### ASCII classes -/

/-- The code point lies in one of some ascending ranges, both ends included: in the first one that
does not end before it. -/
def isAmong (ranges : List (Nat × Nat)) (c : CodePoint) : Bool :=
  (ranges.find? fun r => decide (c.val ≤ r.2)).any fun r => decide (r.1 ≤ c.val)

/-- The code point lies between two characters, both included. -/
def isBetween (lo hi : Char) (c : CodePoint) : Bool :=
  decide (lo.toNat ≤ c.val) && decide (c.val ≤ hi.toNat)

def isUpper (c : CodePoint) : Bool := c.isBetween 'A' 'Z'

def isAlpha (c : CodePoint) : Bool := c.isBetween 'a' 'z' || c.isUpper

def isDigit (c : CodePoint) : Bool := c.isBetween '0' '9'

def isAlphanum (c : CodePoint) : Bool := c.isAlpha || c.isDigit

/-- Occupies one visible or blank column of a terminal. -/
def isPrint (c : CodePoint) : Bool := c.isBetween ' ' '~'

theorem isPrint_iff {c : CodePoint} : c.isPrint = true ↔ 32 ≤ c.val ∧ c.val ≤ 126 := by
  rw [isPrint, isBetween, Bool.and_eq_true, decide_eq_true_eq, decide_eq_true_eq]
  rfl

def isBlank (c : CodePoint) : Bool :=
  c == ofChar ' ' || c == ofChar '\t' || c == ofChar '\r' || c == ofChar '\n'

def isLineBreak (c : CodePoint) : Bool := c == ofChar '\n' || c == ofChar '\r'

/-- A break has no column of its own. -/
theorem isLineBreak_of_isPrint {c : CodePoint} (h : c.isPrint = true) : c.isLineBreak = false := by
  have hlow := (isPrint_iff.mp h).1
  have hne : ∀ d : Char, d.toNat < 32 → c ≠ ofChar d := by
    rintro d hd rfl
    rw [val_ofChar] at hlow
    omega
  simp [isLineBreak, hne '\n' (by decide), hne '\r' (by decide)]

/-- Small letters stand 32 places after the capitals. -/
def toLower (c : CodePoint) : CodePoint := if c.isUpper then ofNat (c.val + 32) else c

/-! ### Surrogates -/

def isHighSurrogate (c : CodePoint) : Bool := decide (0xD800 ≤ c.val) && decide (c.val ≤ 0xDBFF)

def isLowSurrogate (c : CodePoint) : Bool := decide (0xDC00 ≤ c.val) && decide (c.val ≤ 0xDFFF)

def isSurrogate (c : CodePoint) : Bool := decide (0xD800 ≤ c.val) && decide (c.val ≤ 0xDFFF)

/-- The low surrogates that stand for bytes which are no character. -/
def namesByte (c : CodePoint) : Bool := decide (0xDC80 ≤ c.val) && decide (c.val ≤ 0xDCFF)

theorem isSurrogate_eq (c : CodePoint) :
    c.isSurrogate = (c.isHighSurrogate || c.isLowSurrogate) := by
  rw [Bool.eq_iff_iff]
  simp only [isSurrogate, isHighSurrogate, isLowSurrogate, Bool.and_eq_true, Bool.or_eq_true,
    decide_eq_true_eq]
  omega

/-- The character beyond U+FFFF that a high and a low surrogate stand for. -/
def joinPair (hi lo : CodePoint) : CodePoint :=
  ofNat (0x10000 + (hi.val - 0xD800) * 0x400 + (lo.val - 0xDC00))

theorem val_joinPair {hi lo : CodePoint} (h : hi.isHighSurrogate) (l : lo.isLowSurrogate) :
    (joinPair hi lo).val = 0x10000 + (hi.val - 0xD800) * 0x400 + (lo.val - 0xDC00) := by
  simp only [isHighSurrogate, isLowSurrogate, Bool.and_eq_true, decide_eq_true_eq] at h l
  exact val_ofNat (by omega)

/-- The surrogates that stand for a character beyond U+FFFF. -/
def highPart (c : CodePoint) : CodePoint := ofNat (0xD800 + (c.val - 0x10000) / 0x400)

def lowPart (c : CodePoint) : CodePoint := ofNat (0xDC00 + (c.val - 0x10000) % 0x400)

end CodePoint

end Caret

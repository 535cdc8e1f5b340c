import Caret.Value.Basic

/-!
# Classes of elements

An element of a sequence belongs to a class when it is one character of that class. The end marker,
numbers, collections and longer texts belong to none, so a scanner may ask about any element. These
are the questions `is_alpha`, `is_digit`, `is_alphanum`, `is_print`, `is_whitespace` and
`is_line_break`, and `toLower` is `lower_char`.
-/

namespace Caret.Value

/-- The character that an element is, if it is one. -/
def char? : Value → Option CodePoint
  | .text [c] => some c
  | _ => none

theorem char?_eq_some_iff {v : Value} {c : CodePoint} : v.char? = some c ↔ v = .text [c] := by
  constructor
  · intro h
    unfold char? at h
    split at h
    · obtain rfl := Option.some.inj h
      rfl
    · simp at h
  · rintro rfl
    rfl

def isChar (v : Value) (p : CodePoint → Bool) : Bool := v.char?.any p

def isAlpha (v : Value) : Bool := v.isChar CodePoint.isAlpha

def isDigit (v : Value) : Bool := v.isChar CodePoint.isDigit

def isAlphanum (v : Value) : Bool := v.isAlpha || v.isDigit

def isPrint (v : Value) : Bool := v.isChar CodePoint.isPrint

def isBlank (v : Value) : Bool := v.isChar CodePoint.isBlank

def isLineBreak (v : Value) : Bool := v.isChar CodePoint.isLineBreak

def isLineFeed (v : Value) : Bool := v.isChar (· == CodePoint.ofChar '\n')

def isReturn (v : Value) : Bool := v.isChar (· == CodePoint.ofChar '\r')

theorem isLineFeed_iff {v : Value} : v.isLineFeed = true ↔ v = ofCodePoint (CodePoint.ofChar '\n') := by
  simp [isLineFeed, isChar, Option.any_eq_true, char?_eq_some_iff, ofCodePoint]

theorem isReturn_iff {v : Value} : v.isReturn = true ↔ v = ofCodePoint (CodePoint.ofChar '\r') := by
  simp [isReturn, isChar, Option.any_eq_true, char?_eq_some_iff, ofCodePoint]

theorem isLineBreak_eq (v : Value) : v.isLineBreak = (v.isLineFeed || v.isReturn) := by
  unfold isLineBreak isLineFeed isReturn isChar
  cases v.char? <;> rfl

/-- The small form of a capital letter; any other element is left as it is. -/
def toLower (v : Value) : Value :=
  match v.char? with
  | some c => ofCodePoint c.toLower
  | none => v

end Caret.Value

namespace Caret.CodePoint

/-! ### Runs -/

/-- Puts the number just below the runs in front of them. -/
def growRun (n : Nat) : List (Nat × Nat) → List (Nat × Nat)
  | (a, b) :: rs => if a = n + 1 then (n, b) :: rs else (n, n + 1) :: (a, b) :: rs
  | [] => [(n, n + 1)]

/-- The maximal runs of numbers of `p` among the `count` numbers from `start`, ascending and each
without its end, before the runs `above` them. -/
def runsBelow (p : Nat → Bool) (start : Nat) : Nat → List (Nat × Nat) → List (Nat × Nat)
  | 0, above => above
  | n + 1, above =>
    runsBelow p start n (if p (start + n) then growRun (start + n) above else above)

def runs (p : CodePoint → Bool) (start stop : Nat) : List (Nat × Nat) :=
  runsBelow (fun n => p (ofNat n)) start (stop - start) []

end Caret.CodePoint

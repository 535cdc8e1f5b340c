import Caret.Double.Basic
import Caret.Text.Basic

/-!
# Shortest decimals

A number is written with the fewest digits that read back to it. The amounts that are rounded to a
number lie between the middles of the gaps to its neighbours, and these middles count when the
mantissa is even. For each number of digits, the two decimals around the number are tried; of two
that read back the nearer one is taken.
-/

namespace Caret

/-- The amount `digits * 10 ^ exponent`. -/
structure Decimal where
  digits : Nat
  exponent : Int
deriving DecidableEq

namespace Decimal

def ratio (d : Decimal) : Ratio := Ratio.scale ⟨d.digits, 1⟩ 10 d.exponent

/-- Moves up to `n` zeros at the end of the digits into the exponent. -/
def dropZeros : Nat → Decimal → Decimal
  | 0, d => d
  | n + 1, d => if d.digits % 10 = 0 then dropZeros n ⟨d.digits / 10, d.exponent + 1⟩ else d

/-- The place of the point after the first digit, counted from there. -/
def point (d : Decimal) : Int := (Text.ofNat d.digits).length + d.exponent

end Decimal

namespace Ratio

/-- The least exponent of a power of ten that is above a ratio, which must not be so small that its
first digits stand after the first four hundred places. -/
def decimalScale (r : Ratio) : Int :=
  (Text.ofNat (r.scale 10 400).floor).length - (400 : Int)

end Ratio

namespace Double

/-- The amounts that are rounded to a number lie between two bounds. -/
structure Reach where
  lower : Ratio
  upper : Ratio
  closed : Bool

/-- Below a power of two the gap is half as wide as above it. -/
def reach (mantissa : Nat) (exponent : Int) : Reach where
  lower :=
    let narrow := mantissa = mantissaLimit / 2 ∧ leastExponent < exponent
    ratio (if narrow then 4 * mantissa - 1 else 4 * mantissa - 2) (exponent - 2)
  upper := ratio (4 * mantissa + 2) (exponent - 2)
  closed := mantissa % 2 == 0

namespace Reach

def holds (b : Reach) (r : Ratio) : Bool :=
  if b.closed then b.lower.le r && r.le b.upper else b.lower.lt r && r.lt b.upper

/-- The nearer of the two decimals around an amount at an exponent, among those that read back. -/
def decimalAt? (b : Reach) (r : Ratio) (exponent : Int) : Option Decimal :=
  let below : Decimal := ⟨(r.scale 10 (-exponent)).floor, exponent⟩
  let above : Decimal := ⟨below.digits + 1, exponent⟩
  let nearest : Decimal := ⟨(r.scale 10 (-exponent)).round, exponent⟩
  if b.holds below.ratio && b.holds above.ratio then some nearest
  else if b.holds below.ratio then some below
  else if b.holds above.ratio then some above
  else none

end Reach

/-- The most digits that any number needs. -/
def digitLimit : Nat := 17

/-- The decimal of the fewest digits for a number that is not zero. -/
def shortest (mantissa : Nat) (exponent : Int) : Decimal :=
  let r := ratio mantissa exponent
  let scale := r.decimalScale
  let places := (List.range digitLimit).map fun n => scale - (n + 1 : Nat)
  match places.findSome? ((reach mantissa exponent).decimalAt? r) with
  | some d => d.dropZeros (digitLimit + 1)
  | none => ⟨(r.scale 10 (digitLimit - scale)).round, scale - digitLimit⟩

end Double

end Caret

/-!
# Double-precision numbers

A number with a mantissa below `2 ^ 53` and a power of two, or one of the two infinities; zero has a
sign. What has no such form is rounded to the nearest number that has one, and of two equally near
ones to the one with the even mantissa.
-/

namespace Caret

/-- The nearest whole number to a quotient; of two equally near ones the even one. -/
def roundDiv (num den : Nat) : Nat :=
  let q := num / den
  let r := num % den
  if 2 * r < den then q
  else if den < 2 * r then q + 1
  else if q % 2 = 0 then q
  else q + 1

/-- A quotient of naturals, which stands for an amount without sign. -/
structure Ratio where
  num : Nat
  den : Nat

namespace Ratio

/-- The ratio times a power, whose exponent may be below zero. -/
def scale (r : Ratio) (base : Nat) (exponent : Int) : Ratio :=
  ⟨r.num * Nat.pow base exponent.toNat, r.den * Nat.pow base (-exponent).toNat⟩

def floor (r : Ratio) : Nat := r.num / r.den

def round (r : Ratio) : Nat := roundDiv r.num r.den

def lt (r s : Ratio) : Bool := decide (r.num * s.den < s.num * r.den)

def le (r s : Ratio) : Bool := decide (r.num * s.den ≤ s.num * r.den)

/-- The exponent of the greatest power of two that is not above the ratio. -/
def binaryScale (r : Ratio) : Int :=
  let k : Int := r.num.log2 - r.den.log2
  if (Ratio.scale ⟨1, 1⟩ 2 k).le r then k else k - 1

end Ratio

inductive Double where
  | finite (negative : Bool) (mantissa : Nat) (exponent : Int)
  | infinite (negative : Bool)
deriving DecidableEq

namespace Double

def zero (negative : Bool) : Double := .finite negative 0 0

def mantissaLimit : Nat := 9007199254740992

def leastExponent : Int := -1074

def greatestExponent : Int := 971

/-- A rounded mantissa may reach the limit, and then it is half of it at the next exponent. -/
def ofRounded (negative : Bool) (mantissa : Nat) (exponent : Int) : Double :=
  if mantissa = 0 then zero negative
  else if mantissa < mantissaLimit then
    if exponent ≤ greatestExponent then .finite negative mantissa exponent else .infinite negative
  else
    if exponent < greatestExponent then .finite negative (mantissa / 2) (exponent + 1)
    else .infinite negative

/-- The nearest number to an amount. -/
def ofRatio (negative : Bool) (r : Ratio) : Double :=
  if r.num = 0 then zero negative
  else
    let exponent := max (r.binaryScale - 52) leastExponent
    ofRounded negative (r.scale 2 (-exponent)).round exponent

def ofInt (n : Int) : Double := ofRatio (decide (n < 0)) ⟨n.natAbs, 1⟩

/-- The exponents of ten beyond which every number of so many digits is infinite or zero. -/
def decimalReach : Int := 400

/-- The nearest number to `digits` times a power of ten. -/
def ofDecimal (negative : Bool) (digits : Nat) (exponent : Int) : Double :=
  if digits = 0 then zero negative
  else if decimalReach < exponent then .infinite negative
  else if exponent + digits.log2 + 1 < -decimalReach then zero negative
  else ofRatio negative (Ratio.scale ⟨digits, 1⟩ 10 exponent)

def isNegative : Double → Bool
  | .finite negative _ _ => negative
  | .infinite negative => negative

def isZero : Double → Bool
  | .finite _ 0 _ => true
  | _ => false

/-- The amount of a finite number without its sign. -/
def ratio (mantissa : Nat) (exponent : Int) : Ratio := Ratio.scale ⟨mantissa, 1⟩ 2 exponent

/-- The whole part; the infinities have none. -/
def whole? : Double → Option Int
  | .finite negative mantissa exponent =>
    let n := (ratio mantissa exponent).floor
    some (if negative then -n else n)
  | .infinite _ => none

end Double

end Caret

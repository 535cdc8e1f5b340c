import Caret.Double.Shortest

/-!
# Written numbers

A number is written by its digits with a point among them, or with a point after the first digit and
a power of ten. The power has a sign and at least two digits. The number of digits is the least that
reads back, or it is chosen by a count of places.
-/

namespace Caret

/-- Digits with a point `point` places after their start, which may lie outside of them. -/
def positional (digits : Text) (point : Int) : Text × Text :=
  let zero := CodePoint.ofChar '0'
  if point ≤ 0 then ([zero], List.replicate (-point).toNat zero ++ digits)
  else
    let padded := digits.padRight zero point.toNat
    (padded.take point.toNat, padded.drop point.toNat)

/-- The power of ten after the digits. -/
def powerOfTen (mark : Char) (exponent : Int) : Text :=
  CodePoint.ofChar mark :: CodePoint.ofChar (if exponent < 0 then '-' else '+') ::
    (Text.ofNat exponent.natAbs).padLeft (CodePoint.ofChar '0') 2

/-- A point stands before places, and also alone when `always` is set. -/
def withPlaces (always : Bool) (whole places : Text) : Text :=
  if places.isEmpty && !always then whole else whole ++ CodePoint.ofChar '.' :: places

namespace Double

/-! ### The fewest digits -/

/-- Numbers from `10 ^ -4` to below `10 ^ 16` are written without a power of ten, and then with at
least one place. -/
def displayAmount (d : Decimal) : Text :=
  let digits := Text.ofNat d.digits
  if -4 < d.point ∧ d.point ≤ 16 then
    let (whole, places) := positional digits d.point
    whole ++ CodePoint.ofChar '.' :: (if places.isEmpty then text "0" else places)
  else withPlaces false (digits.take 1) (digits.drop 1) ++ powerOfTen 'e' (d.point - 1)

def sign (x : Double) : Text := if x.isNegative then text "-" else []

/-- The text of a number in which infinity has a name. -/
def displayWith (infinity : Text) (x : Double) : Text :=
  x.sign ++
    match x with
    | .infinite _ => infinity
    | .finite _ 0 _ => text "0.0"
    | .finite _ mantissa exponent => displayAmount (shortest mantissa exponent)

def display (x : Double) : Text := x.displayWith (text "inf")

/-! ### A count of places -/

/-- How many places are written and whether zeros at their end and a bare point are kept. -/
structure Places where
  count : Nat
  keep : Bool

/-- How many of `count` places have to be worked out: those after a place at which the amount ends
are zeros. -/
def placesNeeded (r : Ratio) (count : Nat) : Nat :=
  let most := r.den.log2
  if most < count ∧ (r.scale 10 most).num % r.den = 0 then most else count

def fixed (p : Places) (r : Ratio) : Text :=
  let zero := CodePoint.ofChar '0'
  let needed := placesNeeded r p.count
  let digits := (Text.ofNat (r.scale 10 needed).round).padLeft zero (needed + 1)
  let places : Text := digits.drop (digits.length - needed)
  withPlaces p.keep (digits.take (digits.length - needed)) (places.padRight zero p.count)

/-- Some digits of an amount and the exponent of the first one. -/
structure Leading where
  digits : Text
  exponent : Int

/-- An amount rounded to a count of digits. Rounding up may reach the next power of ten. -/
def rounded (r : Ratio) (count : Nat) : Decimal :=
  if r.num = 0 then ⟨0, 1 - count⟩
  else
    let place := r.decimalScale - count
    let digits := (r.scale 10 (-place)).round
    if (Text.ofNat digits).length = count then ⟨digits, place⟩ else ⟨digits / 10, place + 1⟩

/-- How many of `count` digits have to be worked out; at least one. -/
def digitsNeeded (r : Ratio) (count : Nat) : Nat :=
  let before := r.decimalScale
  min count (max 1 (before + placesNeeded r (count - before).toNat).toNat)

/-- The first `count` digits of an amount. -/
def leading (r : Ratio) (count : Nat) : Leading :=
  let zero := CodePoint.ofChar '0'
  let needed := digitsNeeded r count
  let d := rounded r needed
  ⟨((Text.ofNat d.digits).padLeft zero needed).padRight zero count, d.exponent + needed - 1⟩

def scientific (p : Places) (mark : Char) (r : Ratio) : Text :=
  let l := leading r (p.count + 1)
  withPlaces p.keep (l.digits.take 1) (l.digits.drop 1) ++ powerOfTen mark l.exponent

def dropEndZeros (t : Text) : Text := (t.reverse.dropWhile (· == CodePoint.ofChar '0')).reverse

/-- At most `p.count` digits, with a power of ten only for small and great amounts. -/
def general (p : Places) (mark : Char) (r : Ratio) : Text :=
  let count := max p.count 1
  let l := leading r count
  let trim (places : Text) : Text := if p.keep then places else dropEndZeros places
  if -4 ≤ l.exponent ∧ l.exponent < count then
    let (whole, places) := positional l.digits (l.exponent + 1)
    withPlaces p.keep whole (trim places)
  else
    withPlaces p.keep (l.digits.take 1) (trim (l.digits.drop 1)) ++ powerOfTen mark l.exponent

end Double

end Caret

import Caret.Double.Notation
import Caret.Fault

/-!
# Writing arguments

How a conversion writes its argument: as text, as an integer in a base, as a number with places, or
as one character. What is shorter than the width is filled up: on the left with blanks or zeros, or
on the right with blanks.
-/

namespace Caret

namespace Value

/-- The integer that a value is. -/
def integer? : Value → Option Int
  | .bool b => some b.toNat
  | .int n => some n
  | _ => none

end Value

/-- A conversion whose amounts are known. -/
structure WriteStyle where
  flags : Text
  left : Bool
  width : Nat
  precision : Option Nat

namespace WriteStyle

def has (s : WriteStyle) (flag : Char) : Bool := s.flags.contains (CodePoint.ofChar flag)

def pad (s : WriteStyle) (t : Text) : Text :=
  if s.left then t.padRight (CodePoint.ofChar ' ') s.width
  else t.padLeft (CodePoint.ofChar ' ') s.width

/-- The precision of a text is the most code points that are kept of it. -/
def writeText (s : WriteStyle) (t : Text) : Text :=
  s.pad (match s.precision with
    | some n => t.take n
    | none => t)

/-! ### Numbers -/

def sign (s : WriteStyle) (negative : Bool) : Text :=
  if negative then text "-"
  else if s.has '+' then text "+"
  else if s.has ' ' then text " "
  else []

/-- Zeros fill up a number between its sign and base mark and its digits. -/
def writeNumber (s : WriteStyle) (negative : Bool) (mark digits : Text) : Text :=
  let front := s.sign negative ++ mark
  if s.has '0' && !s.left then
    front ++ digits.padLeft (CodePoint.ofChar '0') (s.width - front.length)
  else s.pad (front ++ digits)

/-- The most digits that an integer is filled up to. -/
def digitLimit : Nat := 2147483644

def writeInteger (s : WriteStyle) (ten : Char) (base : Nat) (mark : Text) (n : Int) :
    Except Fault Text :=
  let least := s.precision.getD 0
  if digitLimit < least then .error (.template .tooManyDigits)
  else
    let digits := (Text.inBase ten base n.natAbs).padLeft (CodePoint.ofChar '0') least
    .ok (s.writeNumber (decide (n < 0)) (if s.has '#' then mark else []) digits)

/-- A number with places: a count of them, digits with a power of ten, or whichever is shorter. -/
inductive RealForm where
  | fixed
  | scientific
  | general

def RealForm.digits (form : RealForm) (p : Double.Places) (mark : Char) (r : Ratio) : Text :=
  match form with
  | .fixed => Double.fixed p r
  | .scientific => Double.scientific p mark r
  | .general => Double.general p mark r

def writeReal (s : WriteStyle) (form : RealForm) (capital : Bool) (x : Double) : Text :=
  let digits := match x with
    | .finite _ mantissa exponent =>
      form.digits ⟨s.precision.getD 6, s.has '#'⟩ (if capital then 'E' else 'e')
        (Double.ratio mantissa exponent)
    | .infinite _ => text (if capital then "INF" else "inf")
  s.writeNumber x.isNegative [] digits

/-! ### Arguments -/

/-- The whole part of a number. -/
def wholeOf (code : CodePoint) (v : Value) : Except Fault Int :=
  match v.integer?, v with
  | some n, _ => .ok n
  | none, .double x =>
    match x.whole? with
    | some n => .ok n
    | none => .error (.template .infiniteInteger)
  | none, _ => .error (.template (.notNumber code v))

def integerOf (code : CodePoint) (v : Value) : Except Fault Int :=
  match v.integer? with
  | some n => .ok n
  | none => .error (.template (.notInteger code v))

def realOf (v : Value) : Except Fault Double :=
  match v.integer?, v with
  | some n, _ =>
    match Double.ofInt n with
    | .infinite _ => .error (.template .greatInteger)
    | x => .ok x
  | none, .double x => .ok x
  | none, _ => .error (.template (.notReal v))

def characterOf (v : Value) : Except Fault CodePoint :=
  match v.integer?, v with
  | some n, _ =>
    if h : n.toNat < 0x110000 then
      if 0 ≤ n then .ok ⟨n.toNat, h⟩ else .error (.template .noSuchCharacter)
    else .error (.template .noSuchCharacter)
  | none, .text [c] => .ok c
  | none, _ => .error (.template .notCharacter)

/-- Writes a value by the code of a conversion, which stands at an offset of its template. -/
def write (s : WriteStyle) (code : CodePoint) (offset : Nat) (v : Value) : Except Fault Text :=
  let isCode (c : Char) : Bool := code == CodePoint.ofChar c
  if isCode 's' then .ok (s.writeText v.display)
  else if isCode 'r' then .ok (s.writeText v.quoted)
  else if isCode 'a' then .ok (s.writeText v.quotedAscii)
  else if isCode 'd' || isCode 'i' || isCode 'u' then
    (wholeOf code v).bind (s.writeInteger 'a' 10 [])
  else if isCode 'x' then (integerOf code v).bind (s.writeInteger 'a' 16 (text "0x"))
  else if isCode 'X' then (integerOf code v).bind (s.writeInteger 'A' 16 (text "0X"))
  else if isCode 'o' then (integerOf code v).bind (s.writeInteger 'a' 8 (text "0o"))
  else if isCode 'f' || isCode 'F' then (realOf v).map (s.writeReal .fixed (isCode 'F'))
  else if isCode 'e' || isCode 'E' then (realOf v).map (s.writeReal .scientific (isCode 'E'))
  else if isCode 'g' || isCode 'G' then (realOf v).map (s.writeReal .general (isCode 'G'))
  else if isCode 'c' then (characterOf v).map fun c => s.pad [c]
  else .error (.template (.unknownConversion code offset))

end WriteStyle

end Caret

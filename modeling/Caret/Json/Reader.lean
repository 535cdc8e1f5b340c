import Caret.Json.Basic

/-!
# Reading JSON

A reader for JSON texts: blanks may stand around every part, a text may hold any escape, and two
escapes that name a pair of surrogates stand for one character. `parse?` reads what `render` writes.
-/

namespace Caret.Json

open CodePoint (backslash doubleQuote leftBrace rightBrace)

def skipBlanks (t : Text) : Text := t.dropWhile CodePoint.isBlank

/-! ### Numbers -/

def readDigits? (t : Text) : Option (Text × Text) :=
  match t.takeWhile CodePoint.isDigit with
  | [] => none
  | ds => some (ds, t.dropWhile CodePoint.isDigit)

/-- The digits after a point, if there is one. -/
def readPlaces? (t : Text) : Option (Text × Text) :=
  match Text.after? (Caret.text ".") t with
  | none => some ([], t)
  | some rest => readDigits? rest

def signed (negative : Bool) (n : Nat) : Int := if negative then -n else n

/-- A whole number that may have a sign. -/
def readExponent? : Text → Option (Int × Text)
  | [] => none
  | c :: rest =>
    if c = CodePoint.ofChar '-' then (readDigits? rest).map fun p => (signed true p.1.toNat, p.2)
    else
      (readDigits? (if c = CodePoint.ofChar '+' then rest else c :: rest)).map fun p =>
        (signed false p.1.toNat, p.2)

/-- The power of ten after its mark, if there is one. -/
def readPower? : Text → Option (Int × Text)
  | [] => some (0, [])
  | c :: rest =>
    if c = CodePoint.ofChar 'e' ∨ c = CodePoint.ofChar 'E' then readExponent? rest
    else some (0, c :: rest)

/-- A number without its sign. One with places or a power of ten is double-precision. -/
def readNumber? (negative : Bool) (t : Text) : Option (Json × Text) := do
  let (whole, afterWhole) ← readDigits? t
  let (places, afterPlaces) ← readPlaces? afterWhole
  let (power, rest) ← readPower? afterPlaces
  if rest.length < afterWhole.length then
    pure (.double (Double.ofDecimal negative (whole ++ places).toNat (power - places.length)), rest)
  else pure (.int (signed negative whole.toNat), rest)

/-! ### Texts -/

def hexDigit? (c : CodePoint) : Option Nat :=
  if c.isDigit then some (c.val - 48)
  else if c.isBetween 'a' 'f' then some (c.val - 87)
  else if c.isBetween 'A' 'F' then some (c.val - 55)
  else none

def hexUnit? (a b c d : CodePoint) : Option CodePoint := do
  let w ← hexDigit? a
  let x ← hexDigit? b
  let y ← hexDigit? c
  let z ← hexDigit? d
  pure (CodePoint.ofNat (((w * 16 + x) * 16 + y) * 16 + z))

/-- The code point that a backslash and another one stand for. -/
def shortEscape? (e : CodePoint) : Option CodePoint :=
  if e = doubleQuote ∨ e = backslash ∨ e = CodePoint.ofChar '/' then some e
  else if e = CodePoint.ofChar 'n' then some (CodePoint.ofNat 10)
  else if e = CodePoint.ofChar 'r' then some (CodePoint.ofNat 13)
  else if e = CodePoint.ofChar 't' then some (CodePoint.ofNat 9)
  else if e = CodePoint.ofChar 'b' then some (CodePoint.ofNat 8)
  else if e = CodePoint.ofChar 'f' then some (CodePoint.ofNat 12)
  else none

/-- The units of a text up to its closing quote, which is taken. -/
def readUnits? : Text → Option (Text × Text)
  | [] => none
  | c :: rest =>
    if c = doubleQuote then some ([], rest)
    else if c = backslash then
      match rest with
      | [] => none
      | e :: rest =>
        if e = CodePoint.ofChar 'u' then
          match rest with
          | w :: x :: y :: z :: rest =>
            (hexUnit? w x y z).bind fun u => (readUnits? rest).map fun p => (u :: p.1, p.2)
          | _ => none
        else (shortEscape? e).bind fun u => (readUnits? rest).map fun p => (u :: p.1, p.2)
    else if c.val < 32 then none
    else (readUnits? rest).map fun p => (c :: p.1, p.2)

/-- Puts a unit in front of characters; a high surrogate joins a low one. -/
def addUnit (c : CodePoint) : Text → Text
  | [] => [c]
  | d :: more =>
    if c.isHighSurrogate && d.isLowSurrogate then CodePoint.joinPair c d :: more else c :: d :: more

def joinPairs (units : Text) : Text := units.foldr addUnit []

def readText? (t : Text) : Option (Text × Text) := (readUnits? t).map fun p => (joinPairs p.1, p.2)

/-- The name of a member, whose opening quote is still to be taken. -/
def readName? : Text → Option (Text × Text)
  | [] => none
  | c :: rest => if c = doubleQuote then readText? rest else none

/-! ### Values -/

def readWord? (word : String) (j : Json) (t : Text) : Option (Json × Text) :=
  (Text.after? (Caret.text word) t).map fun rest => (j, rest)

/-- A number or an infinity, without its sign. -/
def readAmount? (negative : Bool) (t : Text) : Option (Json × Text) :=
  (readWord? "Infinity" (.double (.infinite negative)) t).or (readNumber? negative t)

/-- Takes one code point after blanks, and the blanks after it. -/
def readMark? (mark : CodePoint) (t : Text) : Option Text :=
  match skipBlanks t with
  | [] => none
  | c :: rest => if c = mark then some (skipBlanks rest) else none

def comma : CodePoint := CodePoint.ofChar ','

def closeBracket : CodePoint := CodePoint.ofChar ']'

mutual

/-- Reads a value. Every call takes a code point, so the length of a text is fuel enough for it. -/
def readValue? : Nat → Text → Option (Json × Text)
  | 0, _ => none
  | _ + 1, [] => none
  | fuel + 1, c :: rest =>
    if c = CodePoint.ofChar 'n' then readWord? "null" .null (c :: rest)
    else if c = CodePoint.ofChar 't' then readWord? "true" (.bool true) (c :: rest)
    else if c = CodePoint.ofChar 'f' then readWord? "false" (.bool false) (c :: rest)
    else if c = doubleQuote then (readText? rest).map fun p => (.text p.1, p.2)
    else if c = CodePoint.ofChar '[' then
      match readMark? closeBracket rest with
      | some rest => some (.array [], rest)
      | none => (readItems? fuel (skipBlanks rest)).map fun p => (.array p.1, p.2)
    else if c = leftBrace then
      match readMark? rightBrace rest with
      | some rest => some (.object [], rest)
      | none => (readMembers? fuel (skipBlanks rest)).map fun p => (.object p.1, p.2)
    else if c = CodePoint.ofChar '-' then readAmount? true rest
    else readAmount? false (c :: rest)

/-- Reads the values of an array from the first up to the closing bracket. -/
def readItems? : Nat → Text → Option (List Json × Text)
  | 0, _ => none
  | fuel + 1, t => do
    let (j, rest) ← readValue? fuel t
    match readMark? comma rest with
    | some rest => (readItems? fuel rest).map fun p => (j :: p.1, p.2)
    | none => (readMark? closeBracket rest).map fun rest => ([j], rest)

/-- Reads the members of an object from the first up to the closing brace. -/
def readMembers? : Nat → Text → Option (List (Text × Json) × Text)
  | 0, _ => none
  | fuel + 1, t => do
    let (name, rest) ← readName? t
    let rest ← readMark? (CodePoint.ofChar ':') rest
    let (j, rest) ← readValue? fuel rest
    match readMark? comma rest with
    | some rest => (readMembers? fuel rest).map fun p => ((name, j) :: p.1, p.2)
    | none => (readMark? rightBrace rest).map fun rest => ([(name, j)], rest)

end

/-- Nothing but blanks may stand around the value. -/
def parse? (t : Text) : Option Json := do
  let (j, rest) ← readValue? (t.length + 1) (skipBlanks t)
  if (skipBlanks rest).isEmpty then pure j else none

end Caret.Json

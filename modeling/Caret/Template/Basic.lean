import Caret.Text.Basic

/-!
# Templates

A template is a text with conversions, each of which stands for the written form of an argument. A
conversion begins with a percent sign and ends with a code that tells how the argument is written;
between them may stand a key in parentheses, flags, a width, a precision after a point, and one
letter without meaning. Two percent signs stand for one.

Every text is a template. A conversion that the text breaks off is kept as far as it goes, since the
conversions before it are still filled.
-/

namespace Caret

inductive ConversionKey where
  | named (name : Text)
  | unfinished

/-- A width or a precision is given by digits or by the next argument. -/
inductive ConversionAmount where
  | digits (n : Nat)
  | argument

structure Conversion where
  key : Option ConversionKey
  flags : Text
  width : Option ConversionAmount
  precision : Option ConversionAmount
  /-- The template ends before the code of a conversion that has none. -/
  code : Option CodePoint
  /-- The place of the code in the template. -/
  offset : Nat

inductive TemplatePiece where
  | literal (t : Text)
  | conversion (c : Conversion)

abbrev Template := List TemplatePiece

namespace Conversion

def isFlag (c : CodePoint) : Bool := (text "-+ #0").contains c

/-- Letters that may stand before a code. -/
def isSizeMark (c : CodePoint) : Bool := (text "hlL").contains c

/-- The text up to the parenthesis that closes `depth + 1` open ones, and the text after it. -/
def splitClosed? : Nat → Text → Option (Text × Text)
  | _, [] => none
  | depth, c :: rest =>
    if c = CodePoint.ofChar ')' then
      match depth with
      | 0 => some ([], rest)
      | depth + 1 => (splitClosed? depth rest).map fun p => (c :: p.1, p.2)
    else
      (splitClosed? (if c = CodePoint.ofChar '(' then depth + 1 else depth) rest).map fun p =>
        (c :: p.1, p.2)

def readKey : Text → Option ConversionKey × Text
  | [] => (none, [])
  | c :: rest =>
    if c = CodePoint.ofChar '(' then
      match splitClosed? 0 rest with
      | some (name, rest) => (some (.named name), rest)
      | none => (some .unfinished, [])
    else (none, c :: rest)

def readAmount (t : Text) : Option ConversionAmount × Text :=
  match t with
  | [] => (none, [])
  | c :: rest =>
    if c = CodePoint.ofChar '*' then (some .argument, rest)
    else
      match t.takeWhile CodePoint.isDigit with
      | [] => (none, t)
      | ds => (some (.digits (Text.toNat ds)), t.dropWhile CodePoint.isDigit)

/-- A point without digits after it asks for the precision zero. -/
def readPrecision : Text → Option ConversionAmount × Text
  | [] => (none, [])
  | c :: rest =>
    if c = CodePoint.ofChar '.' then
      let (amount, rest) := readAmount rest
      (some (amount.getD (.digits 0)), rest)
    else (none, c :: rest)

def skipSizeMark : Text → Text
  | [] => []
  | c :: rest => if isSizeMark c then rest else c :: rest

/-- Reads a conversion whose percent sign is taken already, `start` being the place after it, and
tells how many code points belong to it. -/
def read (start : Nat) (t : Text) : Conversion × Nat :=
  let (key, afterKey) := readKey t
  let (width, afterWidth) := readAmount (afterKey.dropWhile isFlag)
  let (precision, afterPrecision) := readPrecision afterWidth
  let rest := skipSizeMark afterPrecision
  (⟨key, afterKey.takeWhile isFlag, width, precision, rest.head?, start + (t.length - rest.length)⟩,
    t.length - rest.length + 1)

end Conversion

namespace Template

def percent : CodePoint := CodePoint.ofChar '%'

/-- Puts a code point that stands for itself in front. -/
def addLiteral (c : CodePoint) : Template → Template
  | .literal t :: ps => .literal (c :: t) :: ps
  | ps => .literal [c] :: ps

/-- The pieces of a text that begins at `offset` in the template, where the first `skip` code points
belong to a piece that is read already. -/
def parseFrom : Nat → Nat → Text → Template
  | _, _, [] => []
  | skip + 1, offset, _ :: rest => parseFrom skip (offset + 1) rest
  | 0, offset, c :: rest =>
    if c = percent then
      if rest.head? = some percent then addLiteral percent (parseFrom 1 (offset + 1) rest)
      else
        let (conversion, length) := Conversion.read (offset + 1) rest
        .conversion conversion :: parseFrom length (offset + 1) rest
    else addLiteral c (parseFrom 0 (offset + 1) rest)

def parse (t : Text) : Template := parseFrom 0 0 t

end Template

end Caret

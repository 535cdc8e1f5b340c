import Caret.Fault

/-!
# Names of the operating system

The operating system takes texts as bytes: a text has to have a form as UTF-8, and no name can hold
a null, at which it would end. A byte that belongs to no character is named by a surrogate. What the
operating system has taken it gives back as text, and in that the bytes that spell a character have
become that character.
-/

namespace Caret

/-- A text that has no form as UTF-8 is refused. In names some surrogates stand for bytes. -/
def checkEncodable (names : Bool) (t : Text) : Except SystemFault Unit :=
  match t.unencodableFrom names 0 with
  | some (start, stop) => .error (.unencodable t start stop)
  | none => .ok ()

/-- What the operating system takes as the name of a file or a variable. -/
def checkName (t : Text) : Except SystemFault Unit := do
  checkEncodable true t
  if t.contains (CodePoint.ofNat 0) then .error .embeddedNull

/-! ### Texts given back -/

namespace SystemName

/-- The byte that a surrogate names. -/
def byte (c : CodePoint) : Nat := c.val - 0xDC00

/-- The first byte of a character of several bytes: how many follow, the bits that it gives itself,
and the least number that needs so many bytes. -/
structure FirstByte where
  more : Nat
  bits : Nat
  least : Nat

def firstByte? (byte : Nat) : Option FirstByte :=
  if byte < 0xC0 then none
  else if byte < 0xE0 then some ⟨1, byte - 0xC0, 0x80⟩
  else if byte < 0xF0 then some ⟨2, byte - 0xE0, 0x800⟩
  else if byte < 0xF8 then some ⟨3, byte - 0xF0, 0x10000⟩
  else none

/-- Each byte that continues a character adds six bits. -/
def addBits? (bits : Nat) (c : CodePoint) : Option Nat :=
  if c.namesByte && decide (byte c < 0xC0) then some (64 * bits + (byte c - 0x80)) else none

/-- The character that a text spells by bytes from its start on, and how many of them follow the
first one. -/
def spelled? : Text → Option (CodePoint × Nat)
  | [] => none
  | c :: rest => do
    guard c.namesByte
    let first ← firstByte? (byte c)
    let more := rest.take first.more
    guard (more.length = first.more)
    let n ← more.foldlM addBits? first.bits
    guard (first.least ≤ n ∧ n < 0x110000)
    guard (!(CodePoint.ofNat n).isSurrogate)
    pure (CodePoint.ofNat n, first.more)

/-- What is given back of a text without its first `skip` code points. -/
def givenBackFrom : Nat → Text → Text
  | _, [] => []
  | skip + 1, _ :: rest => givenBackFrom skip rest
  | 0, c :: rest =>
    match spelled? (c :: rest) with
    | some (joined, more) => joined :: givenBackFrom more rest
    | none => c :: givenBackFrom 0 rest

end SystemName

/-- What the operating system gives back of a text that it has taken. -/
def systemForm (t : Text) : Text := SystemName.givenBackFrom 0 t

end Caret

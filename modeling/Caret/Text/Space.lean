import Caret.CodePoint

/-!
# Space

The code points of the full character set that separate words or lines.
-/

namespace Caret.CodePoint

def spaces : List (Nat × Nat) := [
  (0x9, 0xD), (0x1C, 0x20), (0x85, 0x85), (0xA0, 0xA0), (0x1680, 0x1680), (0x2000, 0x200A),
  (0x2028, 0x2029), (0x202F, 0x202F), (0x205F, 0x205F), (0x3000, 0x3000)]

def isSpace (c : CodePoint) : Bool := c.isAmong spaces

end Caret.CodePoint

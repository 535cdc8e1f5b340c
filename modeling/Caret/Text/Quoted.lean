import Caret.Text.Basic
import Caret.Text.Printable

/-!
# Quoted text

A text is quoted by single quotes, or by double quotes when it holds a single and no double one. The
backslash and the chosen quote are escaped by a backslash, and what is not printable by its number.
-/

namespace Caret

namespace Text

open CodePoint (singleQuote doubleQuote backslash)

/-- The quote that stands around a text. -/
def quoteFor (t : Text) : CodePoint :=
  if t.contains singleQuote && !t.contains doubleQuote then doubleQuote else singleQuote

/-- A code point by its number. -/
def numbered (c : CodePoint) : Text :=
  if c.val < 0x100 then backslash :: (CodePoint.ofChar 'x' :: hex 'a' 2 c.val)
  else if c.val < 0x10000 then backslash :: (CodePoint.ofChar 'u' :: hex 'a' 4 c.val)
  else backslash :: (CodePoint.ofChar 'U' :: hex 'a' 8 c.val)

def escaped (quote c : CodePoint) : Text :=
  if c == quote || c == backslash then [backslash, c]
  else if c == CodePoint.ofChar '\n' then [backslash, 'n']
  else if c == CodePoint.ofChar '\r' then [backslash, 'r']
  else if c == CodePoint.ofChar '\t' then [backslash, 't']
  else if c.isPrintable then [c]
  else numbered c

def escapedAscii (c : CodePoint) : Text := if c.val < 0x80 then [c] else numbered c

def quoted (t : Text) : Text :=
  quoteFor t :: (t.flatMap (escaped (quoteFor t)) ++ [quoteFor t])

end Text

end Caret

import Caret.Text.Quoted
import Caret.Value.Display

/-!
# JSON

JSON values and their written form, which is one line of printable ASCII: every other character is
escaped by its number, a character beyond U+FFFF by its two surrogates.
-/

namespace Caret

inductive Json where
  | null
  | bool (b : Bool)
  | int (n : Int)
  | double (x : Double)
  | text (t : Text)
  | array (items : List Json)
  | object (members : List (Text × Json))

instance : Inhabited Json := ⟨.null⟩

namespace Json

open CodePoint (backslash doubleQuote)

def escapeUnit (n : Nat) : Text := backslash :: CodePoint.ofChar 'u' :: Text.hex 'a' 4 n

def escape (c : CodePoint) : Text :=
  if c == doubleQuote || c == backslash then [backslash, c]
  else if c == CodePoint.ofChar '\n' then [backslash, 'n']
  else if c == CodePoint.ofChar '\r' then [backslash, 'r']
  else if c == CodePoint.ofChar '\t' then [backslash, 't']
  else if c.val = 8 then [backslash, 'b']
  else if c.val = 12 then [backslash, 'f']
  else if c.isPrint then [c]
  else if c.val < 0x10000 then escapeUnit c.val
  else escapeUnit c.highPart.val ++ escapeUnit c.lowPart.val

def string (t : Text) : Text := doubleQuote :: (t.flatMap escape ++ [doubleQuote])

mutual

def render : Json → Text
  | .null => Caret.text "null"
  | .bool true => Caret.text "true"
  | .bool false => Caret.text "false"
  | .int n => Text.ofInt n
  | .double x => x.displayWith (Caret.text "Infinity")
  | .text t => string t
  | .array js => Caret.text "[" ++ Text.commaSeparated (renderItems js) ++ Caret.text "]"
  | .object ms =>
    Caret.text "\x7b" ++ Text.commaSeparated (renderMembers ms) ++ Caret.text "\x7d"

def renderItems : List Json → List Text
  | [] => []
  | j :: js => j.render :: renderItems js

def renderMembers : List (Text × Json) → List Text
  | [] => []
  | (name, j) :: ms => (string name ++ Caret.text ": " ++ j.render) :: renderMembers ms

end

end Json

end Caret

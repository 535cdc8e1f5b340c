import Caret.Double.Notation
import Caret.Text.Quoted
import Caret.Value.Basic

/-!
# Display of values

Every value has a quoted form, in which texts stand in quotes, and a plain form, in which a text
is itself. The parts of a collection are always quoted. The quoted form can be kept in ASCII.
-/

namespace Caret

def Location.display (l : Location) : Text :=
  Text.ofInt l.line ++ text ":" ++ Text.ofInt l.column

namespace Value

mutual

def quoted : Value → Text
  | .null => Caret.text "None"
  | .bool true => Caret.text "True"
  | .bool false => Caret.text "False"
  | .int n => Text.ofInt n
  | .double x => x.display
  | .text t => Text.quoted t
  | .list xs => Caret.text "[" ++ Text.commaSeparated (quotedItems xs) ++ Caret.text "]"
  | .tuple xs =>
    match quotedItems xs with
    | [x] => Caret.text "(" ++ x ++ Caret.text ",)"
    | parts => Caret.text "(" ++ Text.commaSeparated parts ++ Caret.text ")"
  | .dictionary es =>
    Caret.text "\x7b" ++ Text.commaSeparated (quotedEntries es) ++ Caret.text "\x7d"
  | .eot => Caret.text "EOT"
  | .location l =>
    Caret.text "SourceLocation(line=" ++ Text.ofInt l.line ++ Caret.text ", column=" ++
      Text.ofInt l.column ++ Caret.text ")"
  | .failureKind name => Caret.text "<class '" ++ name ++ Caret.text "'>"
  | .failure kind message => kind ++ Caret.text "(" ++ Text.quoted message ++ Caret.text ")"

def quotedItems : List Value → List Text
  | [] => []
  | x :: xs => x.quoted :: quotedItems xs

def quotedEntries : List (Value × Value) → List Text
  | [] => []
  | (k, v) :: es => (k.quoted ++ Caret.text ": " ++ v.quoted) :: quotedEntries es

end

def display : Value → Text
  | .text t => t
  | .eot => Caret.text "EndOfInput.EOT"
  | .location l => l.display
  | .failure _ message => message
  | v => v.quoted

/-- The quoted form in ASCII: every other character is written by its number. -/
def quotedAscii (v : Value) : Text := v.quoted.flatMap Text.escapedAscii

@[simp] theorem display_text (t : Text) : (Value.text t).display = t := rfl

end Value

end Caret

import Caret.Text.Basic

/-!
# Terminal colors

The control sequences that change how a terminal shows the text after them. `paint` is `colorize`.
-/

namespace Caret

inductive Color where
  | reset
  | bold
  | grey
  | red
  | green
  | yellow
  | blue
  | cyan
deriving DecidableEq

namespace Color

def code : Color → Text
  | .reset => text "\x1b[0m"
  | .bold => text "\x1b[1m"
  | .grey => text "\x1b[90m"
  | .red => text "\x1b[31m"
  | .green => text "\x1b[32m"
  | .yellow => text "\x1b[33m"
  | .blue => text "\x1b[34m"
  | .cyan => text "\x1b[36m"

end Color

/-- Switches the codes on before a text and everything off after it. -/
def paint (codes t : Text) : Text := codes ++ t ++ Color.reset.code

end Caret

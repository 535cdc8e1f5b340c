import Caret.Template.Fill

/-!
# Message expansion

The message of a log record is a template for its arguments. A single dictionary that is not empty
gives its entries by name; any other arguments are taken in order.
-/

namespace Caret.Message

def supply : List Value → Supply
  | [.dictionary (e :: es)] => .ofEntries (e :: es)
  | args => .ofItems args

/-- The arguments as one value. -/
def gathered : List Value → Value
  | [.dictionary (e :: es)] => .dictionary (e :: es)
  | args => .tuple args

def expand (format : Text) (args : List Value) : Except Fault Text :=
  (Template.parse format).fill (supply args)

end Caret.Message

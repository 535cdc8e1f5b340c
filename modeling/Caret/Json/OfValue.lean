import Caret.Fault
import Caret.Json.Basic

/-!
# Values as JSON

Lists and tuples become arrays. A dictionary becomes an object, its keys becoming names; what has no
written form of its own becomes the text of its display.
-/

namespace Caret.Value

def toName : Value → Except Fault Text
  | .text t => .ok t
  | .bool true => .ok (Caret.text "true")
  | .bool false => .ok (Caret.text "false")
  | .null => .ok (Caret.text "null")
  | .int n => .ok (Text.ofInt n)
  | .double x => .ok (x.displayWith (Caret.text "Infinity"))
  | v => .error (.notKey v)

mutual

def toJson : Value → Except Fault Json
  | .null => .ok .null
  | .bool b => .ok (.bool b)
  | .int n => .ok (.int n)
  | .double x => .ok (.double x)
  | .text t => .ok (.text t)
  | .list xs => (toJsonItems xs).map .array
  | .tuple xs => (toJsonItems xs).map .array
  | .dictionary es => (toJsonMembers es).map .object
  | .eot => .ok (.text (Value.eot.display))
  | .location l => .ok (.text l.display)
  | .failureKind name => .ok (.text (Value.failureKind name).display)
  | .failure kind message => .ok (.text (Value.failure kind message).display)

def toJsonItems : List Value → Except Fault (List Json)
  | [] => .ok []
  | x :: xs => x.toJson.bind fun j => (toJsonItems xs).map (j :: ·)

def toJsonMembers : List (Value × Value) → Except Fault (List (Text × Json))
  | [] => .ok []
  | (k, v) :: es =>
    k.toName.bind fun name => v.toJson.bind fun j => (toJsonMembers es).map ((name, j) :: ·)

end

end Caret.Value

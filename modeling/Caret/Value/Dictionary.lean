import Caret.Fault
import Caret.Value.Hash

/-!
# Making dictionaries

A dictionary is made from entries in order. An equal key keeps its first place and has the last
value, and a key that has no hash key refuses the whole dictionary.
-/

namespace Caret.Value

/-- The key of a value, or the fault that it has none. -/
def filed (v : Value) : Except Fault HashKey :=
  match v.hashKey with
  | .ok k => .ok k
  | .error part => .error (.unhashable part.kindName)

def addEntry (es : List (Value × Value)) (e : Value × Value) :
    Except Fault (List (Value × Value)) := e.1.filed.map fun _ => insertEntry e.1 e.2 es

def ofEntries (es : List (Value × Value)) : Except Fault Value :=
  (es.foldlM addEntry []).map .dictionary

/-- The value that a dictionary has for a key, which has to be one that can be a key. -/
def lookUp (es : List (Value × Value)) (k : Value) : Except Fault Value := do
  let _ ← k.filed
  match valueAt? k es with
  | some v => .ok v
  | none => .error (.missingKey k)

end Caret.Value

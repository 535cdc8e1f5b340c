import Caret.Value.Equality

/-!
# Hash keys and dictionaries

A hash key files equal values under one key, and a value that can change has none. The keys of a
dictionary are therefore values that cannot change, and no two of them are equal.
-/

namespace Caret

namespace Amount

/-- Amounts are filed by their residue, in which halving is a multiplication. -/
def modulus : Nat := 2305843009213693951

/-- The number of doublings after which the residue of an amount returns. -/
def period : Nat := 61

/-- The residue of an amount with its sign; minus one is left for other uses. -/
def residue : Amount → Int
  | .finite n halvings =>
    let r := n.natAbs * Nat.pow 2 ((period - halvings % period) % period) % modulus
    if n < 0 then (if r = 1 then -2 else -(r : Int)) else r
  | .infinite negative => if negative then -314159 else 314159

end Amount

inductive HashKey where
  | nothing
  | number (residue : Int)
  | text (t : Text)
  | items (keys : List HashKey)

namespace HashKey

/-- The empty text is filed like zero. -/
def ofText : Text → HashKey
  | [] => .number 0
  | t => .text t

mutual

def same : HashKey → HashKey → Bool
  | .nothing, .nothing => true
  | .number a, .number b => a == b
  | .text s, .text t => s == t
  | .items ks, .items ls => sameAll ks ls
  | _, _ => false

def sameAll : List HashKey → List HashKey → Bool
  | [], [] => true
  | k :: ks, l :: ls => k.same l && sameAll ks ls
  | _, _ => false

end

end HashKey

namespace Value

mutual

/-- The key of a value, or the first part of it that has none. -/
def hashKey : Value → Except Value HashKey
  | .null => .ok .nothing
  | .bool b => .ok (.number (Amount.ofInt b.toNat).residue)
  | .int n => .ok (.number (Amount.ofInt n).residue)
  | .double x => .ok (.number (Amount.ofDouble x).residue)
  | .text t => .ok (.ofText t)
  | .list xs => .error (.list xs)
  | .tuple xs => (hashKeys xs).map .items
  | .dictionary es => .error (.dictionary es)
  | .eot => .ok (.text (Caret.text "EOT"))
  | .location l =>
    .ok (.items [.number (Amount.ofInt l.line).residue, .number (Amount.ofInt l.column).residue])
  | .failureKind name => .ok (.items [.text name])
  | .failure kind message => .ok (.items [.text kind, .text message])

def hashKeys : List Value → Except Value (List HashKey)
  | [] => .ok []
  | x :: xs => x.hashKey.bind fun k => (hashKeys xs).map (k :: ·)

end

/-! ### Dictionaries -/

/-- Puts an entry into a dictionary: an equal key keeps its place and gets the new value. -/
def insertEntry (k v : Value) : List (Value × Value) → List (Value × Value)
  | [] => [(k, v)]
  | e :: es => if e.1.same k then (e.1, v) :: es else e :: insertEntry k v es

/-- The value that a dictionary has for a key. -/
def valueAt? (k : Value) : List (Value × Value) → Option Value
  | [] => none
  | e :: es => if e.1.same k then some e.2 else valueAt? k es

theorem valueAt?_text_cons (s t : Text) (v : Value) (es : List (Value × Value)) :
    valueAt? (.text s) ((.text t, v) :: es) = if t = s then some v else valueAt? (.text s) es := by
  simp [valueAt?, same_text]

end Value

end Caret

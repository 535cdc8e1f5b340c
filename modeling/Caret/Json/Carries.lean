import Caret.Json.Basic

/-!
# What JSON carries

A JSON value carries a value when it holds the same: numbers and texts as they are, lists and tuples
as arrays, dictionaries as objects with the keys as names, and what JSON has no form for as the text
of its display. Values without doubles whose dictionaries have texts as keys are carried.
-/

namespace Caret

namespace Value

mutual

/-- No part of the value is a double, and every key in it is a text. -/
def isPlain : Value → Bool
  | .null => true
  | .bool _ => true
  | .int _ => true
  | .double _ => false
  | .text _ => true
  | .list xs => arePlain xs
  | .tuple xs => arePlain xs
  | .dictionary es => entriesArePlain es
  | .eot => true
  | .location _ => true
  | .failureKind _ => true
  | .failure .. => true

def arePlain : List Value → Bool
  | [] => true
  | x :: xs => x.isPlain && arePlain xs

def entriesArePlain : List (Value × Value) → Bool
  | [] => true
  | (.text _, v) :: es => v.isPlain && entriesArePlain es
  | _ :: _ => false

end

mutual

/-- The texts that a value is made of. -/
def texts : Value → List Text
  | .null => []
  | .bool _ => []
  | .int _ => []
  | .double _ => []
  | .text t => [t]
  | .list xs => textsOfItems xs
  | .tuple xs => textsOfItems xs
  | .dictionary es => textsOfEntries es
  | .eot => []
  | .location _ => []
  | .failureKind name => [name]
  | .failure kind message => [kind, message]

def textsOfItems : List Value → List Text
  | [] => []
  | x :: xs => x.texts ++ textsOfItems xs

def textsOfEntries : List (Value × Value) → List Text
  | [] => []
  | (k, v) :: es => k.texts ++ v.texts ++ textsOfEntries es

end

end Value

namespace Json

/-- A table of JSON values beside the values that they carry makes an array; with a name in each row
it makes an object. -/
inductive Carries : Json → Value → Prop where
  | null : Carries .null .null
  | bool (b : Bool) : Carries (.bool b) (.bool b)
  | int (n : Int) : Carries (.int n) (.int n)
  | text (t : Text) : Carries (.text t) (.text t)
  | list {rows : List (Json × Value)} (h : ∀ row ∈ rows, Carries row.1 row.2) :
      Carries (.array (rows.map fun row => row.1)) (.list (rows.map fun row => row.2))
  | tuple {rows : List (Json × Value)} (h : ∀ row ∈ rows, Carries row.1 row.2) :
      Carries (.array (rows.map fun row => row.1)) (.tuple (rows.map fun row => row.2))
  | dictionary {rows : List (Text × Json × Value)} (h : ∀ row ∈ rows, Carries row.2.1 row.2.2) :
      Carries (.object (rows.map fun row => (row.1, row.2.1)))
        (.dictionary (rows.map fun row => (.text row.1, row.2.2)))
  | eot : Carries (.text (Caret.text "EndOfInput.EOT")) .eot
  | location (l : Location) :
      Carries (.text (Text.ofInt l.line ++ Caret.text ":" ++ Text.ofInt l.column)) (.location l)
  | failureKind (name : Text) :
      Carries (.text (Caret.text "<class '" ++ name ++ Caret.text "'>")) (.failureKind name)
  | failure (kind message : Text) : Carries (.text message) (.failure kind message)

end Json

end Caret

import Caret.Text.Basic

/-!
# References

A value may refer to variables, as `${name}` or with a default as `${name:-default}`. Anything else
that begins with a dollar sign stands for itself.
-/

namespace Caret.EnvFile

open CodePoint (leftBrace rightBrace)

def dollar : CodePoint := CodePoint.ofChar '$'

def colon : CodePoint := CodePoint.ofChar ':'

def dash : CodePoint := CodePoint.ofChar '-'

structure Reference where
  name : Text
  default : Text
  /-- The number of code points of the reference after its dollar sign. -/
  length : Nat

/-- Reads a reference whose dollar sign is taken already. -/
def readReference? (t : Text) : Option Reference :=
  match t with
  | [] => none
  | c :: rest =>
    if c = leftBrace then
      let name := rest.takeWhile fun c => c != rightBrace && c != colon
      match rest.dropWhile fun c => c != rightBrace && c != colon with
      | [] => none
      | d :: more =>
        if d = rightBrace then some ⟨name, [], name.length + 2⟩
        else
          match more with
          | [] => none
          | e :: more =>
            if e = dash ∧ rightBrace ∈ more then
              let default := more.takeWhile (· != rightBrace)
              some ⟨name, default, name.length + default.length + 4⟩
            else none
    else none

/-- Replaces references, the first `skip` code points being read already. -/
def expandFrom (value : Reference → Text) : Nat → Text → Text
  | _, [] => []
  | skip + 1, _ :: rest => expandFrom value skip rest
  | 0, c :: rest =>
    if c = dollar then
      match readReference? rest with
      | some r => value r ++ expandFrom value r.length rest
      | none => c :: expandFrom value 0 rest
    else c :: expandFrom value 0 rest

end Caret.EnvFile

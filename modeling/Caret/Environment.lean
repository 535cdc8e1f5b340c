import Caret.SystemName
import Caret.Text.Case

/-!
# Environments

The variables of a process: each name has at most one value. The operating system takes only names
that are not empty and hold no equals sign. Names and values are kept as it gives them back. `isOn`
reads a switch as `_get_bool` does.
-/

namespace Caret

abbrev Environment := List (Text × Text)

namespace Environment

def get? (env : Environment) (name : Text) : Option Text := env.lookup name

def erase (env : Environment) (name : Text) : Environment := env.filter fun e => e.1 != name

/-- What keeps a variable from being set. -/
def check (name value : Text) : Except SystemFault Unit := do
  checkEncodable true name
  checkEncodable true value
  checkName name
  checkName value
  if name.contains (CodePoint.ofChar '=') then throw .variableName
  if name.isEmpty then throw .refused

def set (env : Environment) (name value : Text) : Except SystemFault Environment :=
  (check name value).map fun _ =>
    env.erase (systemForm name) ++ [(systemForm name, systemForm value)]

/-- Takes a variable away, if there is one. -/
def unset (env : Environment) (name : Text) : Except SystemFault Environment :=
  (checkEncodable true name).map fun _ => env.erase (systemForm name)

/-- Without a value the variable is taken away. -/
def change (env : Environment) (name : Text) : Option Text → Except SystemFault Environment
  | some value => env.set name value
  | none => env.unset name

/-- The environment of some variables, of which the last of a name counts. -/
def ofEntries (entries : List (Text × Text)) : Except SystemFault Environment :=
  entries.foldlM (fun env e => env.set e.1 e.2) []

/-- Adds a variable of a file unless there is one of the name. A file holds no surrogates, so names
and values are given back as they are. -/
def add (env : Environment) (name value : Text) : Except SystemFault Environment :=
  if (env.get? name).isSome then .ok env
  else (check name value).map fun _ => env ++ [(name, value)]

/-- Adds variables one after the other, up to the first that cannot be one. -/
def addAll (env : Environment) : List (Text × Text) → Environment × Except SystemFault Unit
  | [] => (env, .ok ())
  | (name, value) :: rest =>
    match env.add name value with
    | .ok added => added.addAll rest
    | .error f => (env, .error f)

def sorted (env : Environment) : List (Text × Text) := env.mergeSort fun a b => Text.le a.1 b.1

theorem get?_add {env added : Environment} {name value : Text}
    (h : env.add name value = .ok added) (key : Text) :
    added.get? key = (env.get? key).or (if key = name then some value else none) := by
  unfold add at h
  split at h
  · rename_i hs
    obtain rfl := Except.ok.inj h
    by_cases hk : key = name
    · subst hk
      cases he : env.get? key with
      | none => simp [he] at hs
      | some v => simp
    · simp [hk]
  · cases hc : check name value with
    | error f => simp [hc, Except.map] at h
    | ok u =>
      rw [hc] at h
      obtain rfl := Except.ok.inj h
      simp only [get?, List.lookup_append]
      by_cases hk : key = name
      · subst hk
        simp
      · simp [List.lookup_cons, beq_false_of_ne hk, hk]

/-- What switches on, in any case. -/
def isOn (value : Text) : Bool :=
  [text "true", text "1", text "yes", text "on"].contains value.lower

end Environment

end Caret

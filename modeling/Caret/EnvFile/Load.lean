import Caret.EnvFile.Binding
import Caret.EnvFile.Reference
import Caret.Loader

/-!
# Loading an environment file

An environment file fills the gaps of an environment: it adds the variables that are not there yet
and never changes one that is. References look into the environment as it was before. `loader` is
the loader of a session that fills environments so, and logs nothing. That is what `load_dotenv`
does when it does not override.
-/

namespace Caret.EnvFile

/-- The keys read so far, each with its last value. -/
abbrev Bound := List (Text × Option Text)

/-- Variables of the environment come first, then earlier keys of the file, then the default. -/
def referenceValue (env : Environment) (bound : Bound) (r : Reference) : Text :=
  match env.get? r.name with
  | some v => v
  | none =>
    match bound.lookup r.name with
    | some v => v.getD []
    | none => r.default

/-- A key that is there already keeps its place and gets the new value. -/
def replace (key : Text) (value : Option Text) : Bound → Bound
  | [] => [(key, value)]
  | e :: es => if e.1 = key then (key, value) :: es else e :: replace key value es

def bind (env : Environment) (bound : Bound) (b : Binding) : Bound :=
  match b.key with
  | none => bound
  | some key => replace key (b.value.map (expandFrom (referenceValue env bound) 0)) bound

def bound (env : Environment) (file : Text) : Bound := (parse file).foldl (bind env) []

def isDisabled (env : Environment) : Bool :=
  match env.get? (text "PYTHON_DOTENV_DISABLED") with
  | some v => [text "1", text "true", text "t", text "yes", text "y"].contains v.fold
  | none => false

/-- The keys that have a value, each with its value. -/
def valued (bound : Bound) : List (Text × Text) := bound.filterMap fun e => e.2.map fun v => (e.1, v)

def reading : Loader.Reading where
  parse env file := valued (bound env file)
  disabled := isDisabled

/-- Nothing is read where loading is disabled. -/
def loader : Loader := fun env file =>
  if reading.disabled env then ⟨env, .ok (), []⟩
  else
    match file with
    | .error f => ⟨env, .error (.system f), []⟩
    | .ok content =>
      let (filled, result) := env.addAll (reading.parse env (content.getD []))
      ⟨filled, result.mapError .system, []⟩

end Caret.EnvFile

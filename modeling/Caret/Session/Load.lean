import Caret.Session.Basic

/-!
# Loading settings

Settings are read from the environment, after the loader has filled its gaps from an environment
file. A load that fails leaves the settings that were loaded before, but what has been added to the
environment stays, and so does what the loader has logged. Both are done when a `Config` is made.
-/

namespace Caret.Session

/-- What the loader makes of the environment and the file at a path. -/
def fill (s : Session) (path : Text) : Filling := s.loader s.environment (s.files.read? path)

/-- The session once the loader is done, with what it has logged. -/
def filled (s : Session) (path : Text) : Session × Output :=
  { s with environment := (s.fill path).environment }.logAll (s.fill path).events

/-- The settings in the environment, once the loader has filled it without a refusal. -/
def settingsAfter (s : Session) (path : Text) : Except Fault Settings :=
  (s.fill path).result.bind fun _ => Settings.ofEnvironment (s.fill path).environment

/-- Fills the environment from a file and reads the settings from it. -/
def load (s : Session) (path : Text) : Session × Except Fault Settings × Output :=
  let (next, o) := s.filled path
  match s.settingsAfter path with
  | .ok loaded => ({ next with settings := some loaded }, .ok loaded, o)
  | .error f => (next, .error f, o)

def loaded (s : Session) : Except Fault Settings :=
  match s.settings with
  | some v => .ok v
  | none => .error .noSettings

/-- Given settings, or else the loaded ones. -/
def logSettings (s : Session) : Option LogSettings → Except Fault LogSettings
  | some ls => .ok ls
  | none => s.loaded.map (·.log)

end Caret.Session

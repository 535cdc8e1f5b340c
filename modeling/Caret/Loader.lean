import Caret.Environment
import Caret.Log.Record

/-!
# Loaders

A loader is how an environment is filled from a file. It is given the environment and what reading
the file comes to, and it gives back an environment, whether it was refused, and what it has to log.
Sessions are built on a loader and know nothing more of it. What is documented of a loader that
never changes a variable is `SetsMissing`. In a session it stands for `load_dotenv`, with what that
may log.
-/

namespace Caret

/-- An event with where it is logged, and through which logger. -/
structure Logged where
  origin : Origin
  logger : Text
  event : Event

structure Filling where
  environment : Environment
  result : Except Fault Unit
  events : List Logged

/-- Where there is no file, reading it comes to nothing. -/
abbrev Loader := Environment → Except SystemFault (Option Text) → Filling

namespace Loader

/-- How a loader reads files: the keys of a file with their values, which may refer to the
environment, and whether the environment has disabled it. -/
structure Reading where
  parse : Environment → Text → List (Text × Text)
  disabled : Environment → Bool

/-- The loader sets the keys of a file that the environment does not have yet, one after the other,
and no others, and none if it is disabled. Which keys a file has does not depend on the environment.
-/
structure SetsMissing (loader : Loader) (reading : Reading) : Prop where
  nodup_keys : ∀ env content, ((reading.parse env content).map Prod.fst).Nodup
  keys_eq : ∀ env other content,
    (reading.parse env content).map Prod.fst = (reading.parse other content).map Prod.fst
  disabled : ∀ env file, reading.disabled env = true →
    (loader env file).environment = env ∧ (loader env file).result = .ok ()
  unreadable : ∀ env f, reading.disabled env = false →
    (loader env (.error f)).environment = env ∧ (loader env (.error f)).result = .error (.system f)
  sets : ∀ env content, reading.disabled env = false →
    let added := env.addAll (reading.parse env (content.getD []))
    (loader env (.ok content)).environment = added.1 ∧
      (loader env (.ok content)).result = added.2.mapError .system

end Loader

end Caret

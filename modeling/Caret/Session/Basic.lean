import Caret.FileSystem
import Caret.Loader
import Caret.Log.Diagnostic
import Caret.Log.Handler
import Caret.Log.Logger
import Caret.Settings

/-!
# Sessions

A session is the state that configuration and logging share: the environment, the files, the loaded
settings, and the handlers and levels of the log. The loader of environment files is given with the
session and stays. Logging an event hands its record to every handler, if the logger passes its
level; where and when the event is logged is given with it. A report of what is rejected is
`log_err`, and one of what is accepted is `log_ok`.
-/

namespace Caret

structure Session where
  loader : Loader
  environment : Environment
  files : FileSystem
  settings : Option Settings
  handlers : List Handler
  loggers : Loggers

namespace Session

def initial (loader : Loader) (env : Environment) : Session :=
  ⟨loader, env, .empty, none, [], .initial⟩

/-! ### Writing records -/

/-- Hands a record to every handler. -/
def write (s : Session) (r : Record) : Session × Output :=
  let o := (Handler.deliver s.handlers r).1
  ({ s with files := o.applyTo s.files }, o)

def record (origin : Origin) (logger : Text) (e : Event) : Record :=
  .ofEvent origin (Loggers.shownName logger) e

/-- The session once a logger has been asked for. -/
def ask (s : Session) (logger : Text) : Session := { s with loggers := s.loggers.ensure logger }

/-- Whether a logger passes a level. -/
def judge (s : Session) (logger : Text) (level : Int) : Session × Bool :=
  let (loggers, passed) := s.loggers.judge logger level
  ({ s with loggers := loggers }, passed)

/-- Logs an event through a logger that has been asked for. -/
def pass (s : Session) (origin : Origin) (logger : Text) (e : Event) : Session × Output :=
  match s.judge logger e.level with
  | (judged, true) => judged.write (record origin logger e)
  | (judged, false) => (judged, .empty)

def log (s : Session) (origin : Origin) (logger : Text) (e : Event) : Session × Output :=
  (s.ask logger).pass origin logger e

/-- Logs events one after the other. -/
def logAll (s : Session) : List Logged → Session × Output
  | [] => (s, .empty)
  | a :: rest =>
    let (next, o) := s.log a.origin a.logger a.event
    let (last, more) := next.logAll rest
    (last, o ++ more)

/-! ### Diagnostics -/

/-- What a scanner has found at an index. -/
inductive Verdict where
  | rejected
  | accepted

def Verdict.level : Verdict → Int
  | .rejected => Level.error
  | .accepted => Level.debug

/-- Logs a diagnostic and gives its location. The display is made only when the logger passes it. -/
def report (s : Session) (origin : Origin) (verdict : Verdict) (logger : Text) (d : Diagnostic) :
    Session × Except Fault (Location × Output) :=
  match d.location with
  | .error f => (s, .error f)
  | .ok l =>
    match s.judge logger verdict.level with
    | (judged, false) => (judged, .ok (l, .empty))
    | (judged, true) =>
      match d.event verdict.level with
      | .error f => (judged, .error f)
      | .ok e =>
        let (written, o) := judged.write (record origin logger e)
        (written, .ok (l, o))

end Session

end Caret

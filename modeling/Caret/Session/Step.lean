import Caret.Session.Load
import Caret.Session.Setup

/-!
# Steps of a session

A step changes the state and gives a reply: a result and what was written. A step that fails gives a
fault, and the session goes on. A step that may log says where and when it does so.
-/

namespace Caret.Session

inductive StyleChoice where
  | given (style : Except Fault PointerStyle)
  | loaded

/-- A chosen style. That of the loaded settings can be chosen only once settings are loaded. -/
def style (s : Session) : StyleChoice → Except Fault (Except Fault PointerStyle)
  | .given style => .ok style
  | .loaded => s.loaded.map fun v => .ok v.style

/-- The parts of a diagnostic. One that cannot be made is a fault when its turn comes. -/
structure DiagnosticDraft where
  sequence : Except Fault Sequence
  index : Int
  message : Except Fault Value
  style : StyleChoice

def DiagnosticDraft.make (d : DiagnosticDraft) (style : Except Fault PointerStyle) :
    Except Fault Diagnostic := do
  let sequence ← d.sequence
  let style ← style
  let message ← d.message
  pure ⟨sequence, d.index, message, style⟩

inductive Step where
  /-- A step whose parts could not be made. -/
  | failed (fault : Fault)
  | write (path content : Text)
  | load (path : Text)
  | environment
  | setVariable (name : Text) (value : Option Text)
  | assign (field : Settings.Field) (value : Value)
  | validate
  /-- Without settings of its own the step takes the loaded ones. -/
  | setup (origin : Origin) (settings : Option LogSettings)
  | log (origin : Origin) (logger : Text) (event : Event)
  | report (origin : Origin) (verdict : Verdict) (logger : Text) (diagnostic : DiagnosticDraft)
  | pointer (diagnostic : DiagnosticDraft)
  | setLevel (logger : Text) (level : Int)
  | disable (level : Int)

inductive Answer where
  | done
  | settings (s : Settings)
  | variables (entries : List (Text × Text))
  | valid
  | installed (rootLevel : Int) (handlers : List Handler)
  | location (l : Location)
  | display (t : Text)

structure Reply where
  result : Except Fault Answer
  output : Output

/-- A reply without output. -/
def Reply.quiet (result : Except Fault Answer) : Reply := ⟨result, .empty⟩

/-- Asks for a logger, makes a diagnostic and logs it. -/
def reportDraft (s : Session) (origin : Origin) (verdict : Verdict) (logger : Text)
    (draft : DiagnosticDraft) : Session × Reply :=
  match s.style draft.style with
  | .error f => (s, .quiet (.error f))
  | .ok style =>
    let asked := s.ask logger
    match draft.make style with
    | .error f => (asked, .quiet (.error f))
    | .ok d =>
      match asked.report origin verdict logger d with
      | (next, .ok (l, o)) => (next, ⟨.ok (.location l), o⟩)
      | (next, .error f) => (next, .quiet (.error f))

def pointerDraft (s : Session) (draft : DiagnosticDraft) : Except Fault Text := do
  let style ← s.style draft.style
  let d ← draft.make style
  pointAt d.sequence d.index d.message d.style

def step (s : Session) : Step → Session × Reply
  | .failed f => (s, .quiet (.error f))
  | .write path content =>
    let (files, result) := s.files.write path content
    ({ s with files := files }, .quiet (match result with
      | .ok () => .ok .done
      | .error f => .error (.system f)))
  | .load path =>
    let (next, result, o) := s.load path
    (next, ⟨result.map .settings, o⟩)
  | .environment => (s, .quiet (.ok (.variables s.environment.sorted)))
  | .setVariable name value =>
    match s.environment.change name value with
    | .ok env => ({ s with environment := env }, .quiet (.ok .done))
    | .error f => (s, .quiet (.error (.system f)))
  | .assign field value =>
    match s.settings with
    | some v => ({ s with settings := some (v.assign value field) }, .quiet (.ok .done))
    | none => (s, .quiet (.error .noSettings))
  | .validate => (s, .quiet (s.loaded.bind fun v => v.validate.map fun _ => .valid))
  | .setup origin choice =>
    match s.logSettings choice with
    | .error f => (s, .quiet (.error f))
    | .ok ls =>
      match s.setup origin ls with
      | (next, .ok o) => (next, ⟨.ok (.installed next.loggers.root next.handlers), o⟩)
      | (next, .error f) => (next, .quiet (.error f))
  | .log origin logger event =>
    let (next, o) := s.log origin logger event
    (next, ⟨.ok .done, o⟩)
  | .report origin verdict logger draft => s.reportDraft origin verdict logger draft
  | .pointer draft => (s, .quiet ((s.pointerDraft draft).map .display))
  | .setLevel logger level =>
    ({ s with loggers := (s.loggers.ensure logger).setLevel logger level }, .quiet (.ok .done))
  | .disable level => ({ s with loggers := s.loggers.disable level }, .quiet (.ok .done))

/-- The session after some steps, and the reply of each. -/
def run (s : Session) : List Step → Session × List Reply
  | [] => (s, [])
  | a :: steps =>
    let (next, reply) := s.step a
    let (last, replies) := next.run steps
    (last, reply :: replies)

end Caret.Session

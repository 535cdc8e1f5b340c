import Caret.Log.Level
import Caret.Log.Message

/-!
# Log records

What is known about one event that is logged: its level, its message with the arguments of the
message, extra fields and the failure that caused it; and then where and when it was logged, and the
name of its level. A record is handed from one writer to the next, and each may leave notes on it:
the expanded message, the time and the text of the failure. A record shows what is known of it as
fields with names.
-/

namespace Caret

/-- Where and when an event is logged. -/
structure Origin where
  time : Text
  fileName : Text
  moduleName : Text
  function : Text
  line : Int
  process : Int
  processName : Text
  thread : Int
  threadName : Text
deriving Inhabited

inductive Failure where
  /-- A failure was asked for where none had happened. -/
  | unknown
  | named (kind message : Text)

def Failure.display : Failure → Text
  | .unknown => text "NoneType: None"
  | .named kind [] => kind
  | .named kind message => kind ++ text ": " ++ message

/-- A failure as a field shows it: its kind, the failure itself, and that it has left no trace. -/
def Failure.field : Failure → Value
  | .unknown => .tuple [.null, .null, .null]
  | .named kind message => .tuple [.failureKind kind, .failure kind message, .null]

/-- What a caller gives to be logged. -/
structure Event where
  level : Int
  message : Value
  arguments : List Value
  fields : Option Value
  failure : Option Failure

/-- What the writers of a record leave on it. -/
structure Notes where
  message : Option Text
  time : Option Text
  failure : Option Text

def Notes.blank : Notes := ⟨none, none, none⟩

structure Record extends Event where
  origin : Origin
  logger : Text
  levelName : Text
  notes : Notes

/-- A field by its name. -/
def namedField (name : String) (v : Value) : Value × Value := (.text (text name), v)

namespace Record

/-- The record of an event, on which nothing is noted yet. -/
def ofEvent (origin : Origin) (logger : Text) (e : Event) : Record where
  toEvent := e
  origin := origin
  logger := logger
  levelName := Level.name e.level
  notes := .blank

/-- The message with its conversions expanded. Without arguments percent signs are literal. -/
def text (r : Record) : Except Fault Text :=
  if r.arguments.isEmpty then .ok r.message.display
  else Message.expand r.message.display r.arguments

/-! ### Notes -/

def noteMessage (r : Record) (message : Text) : Record :=
  { r with notes := { r.notes with message := some message } }

def noteTime (r : Record) : Record :=
  { r with notes := { r.notes with time := some r.origin.time } }

/-- The text of a failure is worked out once, and again only if it is empty. -/
def noteFailure (r : Record) : Record :=
  match r.failure with
  | none => r
  | some f =>
    if (r.notes.failure.getD []).isEmpty then
      { r with notes := { r.notes with failure := some f.display } }
    else r

theorem failure_noteFailure (r : Record) : r.noteFailure.notes.failure =
    match r.failure with
    | none => r.notes.failure
    | some f => if (r.notes.failure.getD []).isEmpty then some f.display else r.notes.failure := by
  unfold noteFailure
  split
  · rfl
  · split <;> rfl

/-- The record without what has been noted on it. -/
def bare (r : Record) : Record := { r with notes := .blank }

/-! ### Fields -/

/-- The fields that a layout can show, in the order in which they become known: what is given and
where, the extra fields, and last what is noted of the message and the time. -/
def layoutFields (r : Record) : List (Value × Value) :=
  [namedField "name" (.text r.logger), namedField "msg" r.message,
    namedField "args" (Message.gathered r.arguments), namedField "levelname" (.text r.levelName),
    namedField "levelno" (.int r.level), namedField "pathname" (.text r.origin.fileName),
    namedField "filename" (.text r.origin.fileName),
    namedField "module" (.text r.origin.moduleName),
    namedField "exc_info" ((r.failure.map Failure.field).getD .null),
    namedField "exc_text" ((r.notes.failure.map Value.text).getD .null),
    namedField "stack_info" .null,
    namedField "lineno" (.int r.origin.line), namedField "funcName" (.text r.origin.function),
    namedField "created" (.double (.zero false)), namedField "msecs" (.double (.zero false)),
    namedField "relativeCreated" (.double (.zero false)),
    namedField "thread" (.int r.origin.thread),
    namedField "threadName" (.text r.origin.threadName),
    namedField "processName" (.text r.origin.processName),
    namedField "process" (.int r.origin.process)] ++
  (r.fields.map (namedField "extra_fields")).toList ++
  (r.notes.message.map fun t => namedField "message" (.text t)).toList ++
  (r.notes.time.map fun t => namedField "asctime" (.text t)).toList

end Record

end Caret

import Caret.Session.Basic

/-!
# Setting up the log

Setting up replaces the handlers and the root level: one handler writes to the console and, when the
settings name a file, one to the file. A setup that fails leaves both as they were. `setup` is
`setup_logging`.
-/

namespace Caret.Session

/-- The path of the file that settings ask for, if any. -/
def logPath (ls : LogSettings) : Except Fault (Option Text) :=
  if ls.file.truthy then
    match ls.file with
    | .text t => .ok (some t)
    | v => .error (.notPath v)
  else .ok none

def consoleFormatter (ls : LogSettings) : Formatter :=
  if ls.isJson then .json
  else if ls.color.truthy then .colored Layout.standard
  else .plain Layout.standard

/-- Files never hold colors. -/
def fileFormatter (ls : LogSettings) : Formatter :=
  if ls.isJson then .json else .plain Layout.standard

def handlersFor (ls : LogSettings) (file : Option Place) : List Handler :=
  ⟨.console, consoleFormatter ls⟩ ::
    match file with
    | none => []
    | some p => [⟨.file p, fileFormatter ls⟩]

def levelWarning (ls : LogSettings) : Event :=
  ⟨Level.warning, .text (text "Invalid log level '%s'; defaulting to INFO"), [ls.level], none, none⟩

/-- The logger under which the library itself writes. -/
def libraryLogger : Text := text "lexutil"

/-- Opens the log file, if one is asked for. A new file counts as output. -/
def openLog (fs : FileSystem) :
    Option Text → FileSystem × Except SystemFault (Option Place × Output)
  | none => (fs, .ok (none, .empty))
  | some path =>
    match fs.openFile path with
    | (made, .error f) => (made, .error f)
    | (opened, .ok p) =>
      (opened, .ok (some p, if fs.isFile p then .empty else ⟨[], [(p, [])]⟩))

/-- Replaces the handlers and the root level, with a warning where the level has no name. -/
def install (s : Session) (origin : Origin) (ls : LogSettings) (file : Option Place) :
    Session × Output :=
  let ready : Session := { s with
    handlers := handlersFor ls file
    loggers := s.loggers.setRoot (Level.ofName ls.levelName) }
  if Level.isName ls.levelName then (ready, .empty)
  else ready.log origin libraryLogger (levelWarning ls)

/-- Sets up the log. When the file cannot be opened nothing changes, but for directories that were
made on the way to it. -/
def setup (s : Session) (origin : Origin) (ls : LogSettings) : Session × Except Fault Output :=
  match logPath ls with
  | .error f => (s, .error f)
  | .ok path =>
    let (files, opened) := openLog s.files path
    let next := { s with files := files }
    match opened with
    | .error f => (next, .error (.system f))
    | .ok (file, o) =>
      let (ready, warned) := next.install origin ls file
      (ready, .ok (o ++ warned))

end Caret.Session

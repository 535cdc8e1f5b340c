import Caret.Environment
import Caret.Log.Level
import Caret.Pointer

/-!
# Settings

What a program may choose about its log and its pointer displays. Settings are read from an
environment, and can afterwards be assigned any value; `validate` tells whether they can be used.
They are the parts of a `Config`: a `LoggingConfig`, and a style as its `DiagnosticsConfig`.
-/

namespace Caret

structure LogSettings where
  level : Value
  format : Value
  file : Value
  color : Value

def LogSettings.standard : LogSettings :=
  ⟨.text (text "INFO"), .text (text "text"), .null, .bool true⟩

structure Settings where
  log : LogSettings
  style : PointerStyle

namespace LogSettings

def ofEnvironment (env : Environment) : LogSettings where
  level := .text ((env.get? (text "LOG_LEVEL")).getD (text "INFO"))
  format := .text ((env.get? (text "LOG_FORMAT")).getD (text "text")).lower
  file :=
    match env.get? (text "LOG_FILE") with
    | none => .null
    | some [] => .null
    | some path => .text path
  color := .bool (Environment.isOn ((env.get? (text "LOG_COLOR")).getD (text "True")))

def isJson (s : LogSettings) : Bool := s.format.same (.text (text "json"))

def hasKnownFormat (s : LogSettings) : Bool := s.format.same (.text (text "text")) || s.isJson

/-- The level by the name that is looked up. -/
def levelName (s : LogSettings) : Text := s.level.display.upper

end LogSettings

namespace Settings

def ofEnvironment (env : Environment) : Except Fault Settings :=
  (PointerStyle.make (.text ((env.get? (text "DIAG_POINTER")).getD (text "^")))
    (.bool (Environment.isOn ((env.get? (text "DIAG_LINE_NUMBERS")).getD (text "True"))))).map
    fun style => ⟨.ofEnvironment env, style⟩

def validate (s : Settings) : Except Fault Unit := do
  if !s.log.hasKnownFormat then throw (.unknownFormat s.log.format)
  if !Level.isName s.log.levelName then throw (.unknownLevel s.log.level)
  let _ ← checkMark s.style.mark

inductive Field where
  | logLevel
  | logFormat
  | logFile
  | logColor
  | mark
  | lineNumbers

def assign (s : Settings) (v : Value) : Field → Settings
  | .logLevel => { s with log.level := v }
  | .logFormat => { s with log.format := v }
  | .logFile => { s with log.file := v }
  | .logColor => { s with log.color := v }
  | .mark => { s with style.mark := v }
  | .lineNumbers => { s with style.lineNumbers := v }

end Settings

end Caret

import Caret.Text.Case

/-!
# Log levels

A level is a number; the more severe, the greater. Some numbers have names, and some of them two.
`ofName` is `_resolve_level`.
-/

namespace Caret.Level

def critical : Int := 50

def error : Int := 40

def warning : Int := 30

def info : Int := 20

def debug : Int := 10

def unset : Int := 0

/-- The names by which a level can be asked for. -/
def names : List (Text × Int) := [
  (text "CRITICAL", critical), (text "FATAL", critical), (text "ERROR", error),
  (text "WARN", warning), (text "WARNING", warning), (text "INFO", info), (text "DEBUG", debug),
  (text "NOTSET", unset)]

/-- The name that is written for a level. -/
def name (level : Int) : Text :=
  if level = critical then text "CRITICAL"
  else if level = error then text "ERROR"
  else if level = warning then text "WARNING"
  else if level = info then text "INFO"
  else if level = debug then text "DEBUG"
  else if level = unset then text "NOTSET"
  else text "Level " ++ Text.ofInt level

def isName (t : Text) : Bool := (names.lookup t).isSome

/-- The level of a name in any case; an unknown name asks for `info`. -/
def ofName (t : Text) : Int := (names.lookup t.upper).getD info

end Caret.Level

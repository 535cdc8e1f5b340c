import Caret.Log.Level

/-!
# Loggers

Loggers form a tree by the dots in their names, under a root. A logger passes what is at least as
severe as its own level or, where that is unset, as the level of the nearest logger above it that
has one, the root being the last. One more level silences every logger up to it.

A logger comes into being when it is first asked for. It stands below the nearest logger whose name
is a part of its own up to a dot, and takes over the loggers that belong below it; a logger stays
where it is if the name of the one that it stands below begins with the new name.

Whether a logger passes a level is found out once. The verdict is remembered until some level
changes; a logger that comes in between does not undo it.
-/

namespace Caret

/-- A logger and the one that it stands below, which is the root if there is none. -/
structure Logger where
  name : Text
  parent : Option Text
  level : Int

structure Loggers where
  root : Int
  known : List Logger
  disabled : Int
  /-- For each shown name and level the verdict since the last change of a level. -/
  verdicts : List ((Text × Int) × Bool)

namespace Loggers

def rootName : Text := text "root"

def initial : Loggers := ⟨Level.warning, [], Level.unset, []⟩

def isRoot (name : Text) : Bool := name.isEmpty || name == rootName

/-- The name that a record of the logger shows. -/
def shownName (name : Text) : Text := if isRoot name then rootName else name

def dot : CodePoint := CodePoint.ofChar '.'

/-- A name is a part of a lower one up to a dot. Of dots in a row every other one counts, the last
one first. -/
def isAbove (name lower : Text) : Bool :=
  !name.isEmpty &&
    match Text.after? name lower with
    | some (c :: rest) => c == dot && (rest.takeWhile (· == dot)).length % 2 == 0
    | _ => false

/-- The longer of two names, or the one that there is. -/
def longer (name : Text) : Option Text → Option Text
  | some other => if name.length < other.length then some other else some name
  | none => some name

def find? (l : Loggers) (name : Text) : Option Logger := l.known.find? (·.name == name)

/-- The name of the logger that a logger stands below. -/
def parentName (g : Logger) : Text := g.parent.getD rootName

/-- The nearest logger above a name. -/
def nearestAbove (l : Loggers) (name : Text) : Option Text :=
  ((l.known.map Logger.name).filter fun n => isAbove n name).foldr longer none

/-- What becomes of a logger when there is a new one. -/
def adopt (name : Text) (g : Logger) : Logger :=
  if isAbove name g.name && (Text.after? name (parentName g)).isNone then
    { g with parent := some name }
  else g

/-- The loggers once the one of a name has been asked for. -/
def ensure (l : Loggers) (name : Text) : Loggers :=
  if isRoot name || (l.find? name).isSome then l
  else
    let new : Logger := ⟨name, l.nearestAbove name, Level.unset⟩
    { l with known := new :: l.known.map (adopt name) }

/-- The level of a logger that is at most `depth` below the root. -/
def levelWithin (l : Loggers) : Nat → Option Text → Int
  | _, none => l.root
  | 0, some _ => l.root
  | depth + 1, some name =>
    match l.find? name with
    | none => l.root
    | some g => if g.level = Level.unset then levelWithin l depth g.parent else g.level

/-- Names get shorter from a logger to the one above it. -/
def effective (l : Loggers) (name : Text) : Int :=
  if isRoot name then l.root else l.levelWithin (name.length + 1) (some name)

def passes (l : Loggers) (name : Text) (level : Int) : Bool :=
  decide (l.disabled < level) && decide (l.effective name ≤ level)

/-- The verdict on a level, which is remembered from now on. -/
def judge (l : Loggers) (name : Text) (level : Int) : Loggers × Bool :=
  let key := (shownName name, level)
  match l.verdicts.lookup key with
  | some verdict => (l, verdict)
  | none => ({ l with verdicts := (key, l.passes name level) :: l.verdicts }, l.passes name level)

def forget (l : Loggers) : Loggers := { l with verdicts := [] }

def setRoot (l : Loggers) (level : Int) : Loggers := { l.forget with root := level }

def setLevel (l : Loggers) (name : Text) (level : Int) : Loggers :=
  if isRoot name then l.setRoot level
  else
    let change (g : Logger) : Logger := if g.name = name then { g with level := level } else g
    { l.forget with known := l.known.map change }

def disable (l : Loggers) (level : Int) : Loggers := { l.forget with disabled := level }

end Loggers

end Caret

import Caret.FileSystem
import Caret.Log.Formatter

/-!
# Handlers

A handler writes log records, one line each, to the console or to the end of a file. A record that
cannot be written is dropped by the handler that fails on it. The handlers share one record: what the
formatter of a handler leaves on it is what the next handler is given.
-/

namespace Caret

/-- What is written to the console and added to files. -/
structure Output where
  console : Text
  files : List (Place × Text)

namespace Output

def empty : Output := ⟨[], []⟩

/-- Adds to what is written to a file. -/
def addTo (p : Place) (t : Text) : List (Place × Text) → List (Place × Text)
  | [] => [(p, t)]
  | e :: es => if e.1 = p then (p, e.2 ++ t) :: es else e :: addTo p t es

def append (a b : Output) : Output :=
  ⟨a.console ++ b.console, b.files.foldl (fun acc e => addTo e.1 e.2 acc) a.files⟩

instance : Append Output := ⟨append⟩

@[simp] theorem append_empty (a : Output) : a ++ empty = a := by
  show append a empty = a
  simp [append, empty]

/-- What is added to files below the working directory, by their paths. -/
def insideFiles (o : Output) : List (Text × Text) :=
  (o.files.filter (·.1.isInside)).map fun e => (e.1.display, e.2)

/-- The files after the output. -/
def applyTo (o : Output) (fs : FileSystem) : FileSystem :=
  o.files.foldl (fun fs e => fs.append e.1 e.2) fs

end Output

inductive Target where
  | console
  | file (place : Place)

/-- Writes a line, if there is one. A surrogate has no form in a file, so a line that holds one is
not written there. -/
def Target.put : Target → Except Fault Text → Output
  | _, .error _ => .empty
  | .console, .ok line => ⟨line ++ [Formatter.newline], []⟩
  | .file p, .ok line =>
    if line.any CodePoint.isSurrogate then .empty else ⟨[], [(p, line ++ [Formatter.newline])]⟩

structure Handler where
  target : Target
  formatter : Formatter

namespace Handler

/-- Writes a record, unless its level is below every level that a handler can have, and gives it
back. -/
def emit (h : Handler) (r : Record) : Output × Record :=
  if r.level < Level.unset then (.empty, r)
  else
    let (written, after) := h.formatter.format r
    (h.target.put written, after)

/-- What is written once one more handler has been handed the record. -/
def hand (given : Output × Record) (h : Handler) : Output × Record :=
  let (o, after) := h.emit given.2
  (given.1 ++ o, after)

@[simp] theorem hand_mk (o : Output) (r : Record) (h : Handler) :
    hand (o, r) h = (o ++ (h.emit r).1, (h.emit r).2) := rfl

/-- The handlers write one after the other, each from the record as the one before has left it. -/
def deliver (hs : List Handler) (r : Record) : Output × Record := hs.foldl hand (.empty, r)

end Handler

end Caret

import Caret.SystemName

/-!
# File systems

Files and directories in and around a working directory, as a tree of names. A path is a text with
slashes; it is walked step by step, and every step is taken from a directory that exists. A path
leads to a place.
-/

namespace Caret

/-! ### Paths -/

structure Path where
  rooted : Bool
  steps : List Text

namespace Path

def slash : CodePoint := CodePoint.ofChar '/'

def up : Text := text ".."

/-- The steps between the slashes; an empty one and a single dot name no step. -/
def parse (t : Text) : Path where
  rooted := t.head? == some slash
  steps := (t.pieces slash).filter fun p => !p.isEmpty && p != text "."

def display (p : Path) : Text :=
  (if p.rooted then [slash] else []) ++ List.intercalate [slash] p.steps

def parent (p : Path) : Path := { p with steps := p.steps.dropLast }

/-- The sizes in bytes that a path and a name in it have to stay below. -/
def sizeLimit : Nat := 4096

def nameLimit : Nat := 256

end Path

/-- What the operating system takes as a path. -/
def checkPath (t : Text) : Except SystemFault Unit := do
  checkName t
  if Path.sizeLimit ≤ t.utf8Size then .error .refused

/-! ### Places -/

/-- A place below the working directory, below one of the directories above it, or below the top. -/
structure Place where
  rooted : Bool
  ups : Nat
  names : List Text
deriving DecidableEq

namespace Place

def start (rooted : Bool) : Place := ⟨rooted, 0, []⟩

def up (p : Place) : Place :=
  if p.names.isEmpty then (if p.rooted then p else { p with ups := p.ups + 1 })
  else { p with names := p.names.dropLast }

/-- The place one step further; the step may also lead up or stay. -/
def step (p : Place) (name : Text) : Place :=
  if name.isEmpty || name == text "." then p
  else if name = Path.up then p.up
  else { p with names := p.names ++ [systemForm name] }

def isInside (p : Place) : Bool := !p.rooted && p.ups == 0

def display (p : Place) : Text := List.intercalate [Path.slash] p.names

/-- Where a path leads when no step of it is looked up. -/
def ofPath (p : Path) : Place := p.steps.foldl step (start p.rooted)

/-- The path of a place, as far as it is known. -/
def path (p : Place) : Path := ⟨p.rooted, p.names⟩

/-- The names that lead to a place in the tree of the working directory. The top and the directories
above hang in it under names that no file can have. -/
def branch (p : Place) : List Text :=
  (if p.rooted then [[Path.slash]] else List.replicate p.ups Path.up) ++ p.names

end Place

/-! ### Trees of names -/

inductive Node where
  /-- A file holds some texts, of which the last one comes first. -/
  | file (parts : List Text)
  | directory (entries : List (Text × Node))

namespace Node

def empty : Node := .directory []

def entries : Node → List (Text × Node)
  | .file _ => []
  | .directory es => es

def get? (n : Node) : List Text → Option Node
  | [] => some n
  | name :: names =>
    match n.entries.lookup name with
    | some m => m.get? names
    | none => none

/-- Puts a node where some names lead, in place of any other. -/
def put (new n : Node) : List Text → Node
  | [] => new
  | name :: names =>
    let changed := put new ((n.entries.lookup name).getD empty) names
    .directory ((name, changed) :: n.entries.filter fun e => e.1 != name)

end Node

/-! ### File systems -/

structure FileSystem where
  tree : Node

namespace FileSystem

def empty : FileSystem := ⟨.empty⟩

/-- The places without a name are directories to begin with. -/
def get? (fs : FileSystem) (p : Place) : Option Node :=
  match fs.tree.get? p.branch with
  | some n => some n
  | none => if p.names.isEmpty then some .empty else none

def put (fs : FileSystem) (p : Place) (n : Node) : FileSystem := ⟨Node.put n fs.tree p.branch⟩

def content? (fs : FileSystem) (p : Place) : Option Text :=
  match fs.get? p with
  | some (.file parts) => some parts.reverse.flatten
  | _ => none

def isFile (fs : FileSystem) (p : Place) : Bool :=
  match fs.get? p with
  | some (.file _) => true
  | _ => false

def isDirectory (fs : FileSystem) (p : Place) : Bool :=
  match fs.get? p with
  | some (.directory _) => true
  | _ => false

/-- Takes some steps from a place, each from a directory. There may be nothing where the last one
leads. -/
def walk (fs : FileSystem) (p : Place) : List Text → Option Place
  | [] => some p
  | name :: rest =>
    if fs.isDirectory p && decide (name.utf8Size < Path.nameLimit) then walk fs (p.step name) rest
    else none

/-- Where a text leads as a path. A slash after a file leads nowhere. -/
def resolve (fs : FileSystem) (t : Text) : Except SystemFault Place := do
  checkPath t
  match fs.walk (.start (t.head? == some Path.slash)) (t.pieces Path.slash) with
  | some p => pure p
  | none => .error .refused

/-- The content of the file that a text names as a path, if it leads to one. -/
def read? (fs : FileSystem) (t : Text) : Except SystemFault (Option Text) :=
  match fs.resolve t with
  | .ok p => .ok (fs.content? p)
  | .error .refused => .ok none
  | .error f => .error f

/-! ### Making directories and files -/

/-- Takes a step from a directory into another one, which is made if there is nothing. -/
def enter (fs : FileSystem) (p : Place) (name : Text) : Except SystemFault (FileSystem × Place) :=
  let next := p.step name
  if Path.nameLimit ≤ name.utf8Size then .error .refused
  else
    match fs.get? next with
    | none => .ok (fs.put next .empty, next)
    | some (.directory _) => .ok (fs, next)
    | some (.file _) => .error .refused

/-- Enters directories one after the other. What is made before a fault stays. The path of each one
begins with what is walked already. -/
def enterAll (fs : FileSystem) (p : Place) (walked : Text) :
    List Text → FileSystem × Except SystemFault Unit
  | [] => (fs, .ok ())
  | name :: rest =>
    match checkPath (walked ++ name) with
    | .error f => (fs, .error f)
    | .ok () =>
      match fs.enter p name with
      | .ok (made, next) => made.enterAll next (walked ++ name ++ [Path.slash]) rest
      | .error f => (fs, .error f)

/-- Makes the directories above the path that a text names. -/
def makeAbove (fs : FileSystem) (t : Text) : FileSystem × Except SystemFault Unit :=
  fs.enterAll (.start (t.head? == some Path.slash)) [] (t.pieces Path.slash).dropLast

/-- A path leads to where a file is or can be made. -/
def resolveFile (fs : FileSystem) (t : Text) : Except SystemFault Place := do
  let p ← fs.resolve t
  if fs.isDirectory p then .error .refused else pure p

/-- Makes the directories above a path, and a file there in place of any other. The path is walked
as it is given. A surrogate has no form in a file, which then stays empty. -/
def write (fs : FileSystem) (path content : Text) : FileSystem × Except SystemFault Unit :=
  match fs.makeAbove path with
  | (made, .error f) => (made, .error f)
  | (made, .ok ()) =>
    match made.resolveFile path with
    | .error f => (made, .error f)
    | .ok p =>
      match checkEncodable false content with
      | .ok () => (made.put p (.file [content]), .ok ())
      | .error f => (made.put p (.file []), .error f)

/-- Adds to the end of a file. -/
def append (fs : FileSystem) (p : Place) (t : Text) : FileSystem :=
  match fs.get? p with
  | some (.file parts) => fs.put p (.file (t :: parts))
  | _ => fs

/-! ### Files that stay open -/

/-- A place that no step is looked up for, where a file is or can be made. -/
def checkOpen (fs : FileSystem) (p : Place) : Except SystemFault Unit := do
  checkPath p.path.display
  if fs.isDirectory p || p.names.any fun n => decide (Path.nameLimit ≤ n.utf8Size) then
    .error .refused

/-- Makes the directories above a path, and a file there unless there is one. Of the path only the
steps count, and none is made when the directories have no usable name. The file is opened where the
steps lead when none of them is looked up. -/
def openFile (fs : FileSystem) (t : Text) : FileSystem × Except SystemFault Place :=
  let path := Path.parse t
  match checkPath path.parent.display with
  | .error f => (fs, .error f)
  | .ok () =>
    match fs.makeAbove path.display with
    | (made, .error f) => (made, .error f)
    | (made, .ok ()) =>
      let place := Place.ofPath path
      match made.checkOpen place with
      | .error f => (made, .error f)
      | .ok () =>
        (if made.isFile place then made else made.put place (.file []), .ok place)

end FileSystem

end Caret

import Caret.Program.Diagnose
import Caret.Program.Search

/-!
# Programs

A program makes sequences and asks about them, step by step. Each step leaves a value, to which the
later steps refer by the number of the step.
-/

namespace Caret

namespace Program

/-- What is asked of a sequence. -/
inductive Question where
  | slice (cut : Slice)
  | get (index : Int)
  | length
  | text
  | items
  | owned
  | joined
  | list
  | masked
  | quoted
  | reversed
  | contains (item : Value)
  | count (item : Value)
  | position (item : Value) (range : SearchRange)
  | diagnose (query : Query) (index : Int)
  | pointer (index : Int) (message : Value)

inductive Step where
  /-- A step whose parts could not be made. -/
  | failed (fault : Fault)
  | decode (t : Text)
  | source (items : List Value)
  /-- Without an end the window reaches to the end of its items. -/
  | window (items : List Value) (start : Int) (stop : Option Int)
  | value (v : Value)
  | ask (subject : Nat) (question : Question)
  | same (left right : Nat)
  | differ (left right : Nat)
  | sameHash (left right : Nat)

def answer (o : Operand) : Question → Except Fault Operand
  | .slice cut => o.slice cut
  | .get index => (o.get index).map .value
  | .length => o.length.map fun n => .value (.int n)
  | .text => o.toText.map fun t => .value (.text t)
  | .items => o.items.map fun xs => .value (.tuple xs)
  | .owned => o.owned.map fun xs => .value (.tuple xs)
  | .joined => o.joined.map fun t => .value (.text t)
  | .list => o.list.map fun xs => .value (.list xs)
  | .masked => o.list.map fun xs => .value (.text (mask xs))
  | .quoted => o.quoted.map fun t => .value (.text t)
  | .reversed => o.reversed.map fun xs => .value (.list xs)
  | .contains item => (o.contains item).map fun b => .value (.bool b)
  | .count item => (o.count item).map fun n => .value (.int n)
  | .position item range => (o.position item range).map fun p => .value (.int p)
  | .diagnose query index => (o.diagnose query index).map .value
  | .pointer index message => (o.pointer index message).map fun t => .value (.text t)

/-- The values that the steps so far have left, a failed step leaving none. -/
abbrev Memory := List (Option Operand)

def operandAt (memory : Memory) (n : Nat) : Except Fault Operand :=
  match memory[n]? with
  | some (some o) => .ok o
  | _ => .error (.missingKey (.int n))

def step (memory : Memory) : Step → Except Fault Operand
  | .failed fault => .error fault
  | .decode t => (Source.decode t).map .source
  | .source items => (Source.ofItems items).map .source
  | .window items start stop =>
    (Window.ofBounds items start (stop.getD items.length)).map .window
  | .value v => .ok (.value v)
  | .ask subject question => (operandAt memory subject).bind fun o => answer o question
  | .same left right => do
    let a ← operandAt memory left
    let b ← operandAt memory right
    pure (.value (.bool (a.same b)))
  | .differ left right => do
    let a ← operandAt memory left
    let b ← operandAt memory right
    pure (.value (.bool (!a.same b)))
  | .sameHash left right => do
    let a ← operandAt memory left
    let b ← operandAt memory right
    let k ← a.filed
    let l ← b.filed
    pure (.value (.bool (k.same l)))

/-- The results of the steps that follow on what is in memory. -/
def runFrom (memory : Memory) : List Step → List (Except Fault Operand)
  | [] => []
  | a :: steps =>
    let result := step memory a
    result :: runFrom (memory ++ [result.toOption]) steps

def run (steps : List Step) : List (Except Fault Operand) := runFrom [] steps

end Program

end Caret

import Caret.Program.Operand

/-!
# Diagnosing operands

A question about an index of a sequence. A dictionary takes part as the sequence of what it has for
the numbers from zero on; it has no parts, and where a number is missing no element can be read.
-/

namespace Caret

namespace Operand

/-- What a diagnostic can look at. -/
inductive Subject where
  | sequence (s : Sequence)
  | dictionary (entries : List (Value × Value))

def subject : Operand → Except Fault Subject
  | .source s => .ok (.sequence (.source s))
  | .window w => .ok (.sequence (.window w))
  | .value (.text t) => .ok (.sequence (.text t))
  | .value (.list xs) => .ok (.sequence (.list xs))
  | .value (.tuple xs) => .ok (.sequence (.tuple xs))
  | .value (.dictionary es) => .ok (.dictionary es)
  | .value v => .error (.unable v.kindName .length)

/-! ### Dictionaries -/

/-- What a dictionary has for a number. -/
def numbered? (es : List (Value × Value)) (i : Nat) : Option Value := Value.valueAt? (.int i) es

/-- The elements by number, with nothing where one is missing. -/
def numbered (es : List (Value × Value)) : List Value :=
  (List.range es.length).map fun i => (numbered? es i).getD .null

/-- None of the numbers that are read may be missing. -/
def checkReads (es : List (Value × Value)) (reads : List Nat) : Except Fault Unit :=
  match reads.find? fun i => (numbered? es i).isNone with
  | some i => .error (.missingKey (.int i))
  | none => .ok ()

/-! ### Questions -/

def diagnose (query : Query) (index : Int) (o : Operand) : Except Fault Value := do
  match ← o.subject with
  | .sequence s => query.answer s.elements index
  | .dictionary es =>
    let i ← indexIn (numbered es) index
    checkReads es (query.reads (numbered es) i)
    query.answer (numbered es) index

def pointer (index : Int) (headline : Value) (o : Operand) : Except Fault Text := do
  match ← o.subject with
  | .sequence s => pointAt s index headline PointerStyle.standard
  | .dictionary es =>
    let i ← indexIn (numbered es) index
    checkReads es (displayColumnReads (numbered es) i ++ boundsReads (numbered es) i ++
      lineNumberReads (numbered es) i)
    .error (.unhashable (text "slice"))

end Operand

end Caret

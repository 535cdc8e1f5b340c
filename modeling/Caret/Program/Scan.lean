import Caret.Program.Operand

/-!
# Diagnostics, look by look

A diagnostic made by a scan that knows the length of a sequence and looks at one element at a time:
back to the break before an index, forward to the end of its line, and over all that stands before
it. All that may fail on the way is kept: a look may be refused, an index is checked again wherever
a scan hands it on, the bounds of the line may lie outside, and the pad may have less than no
columns. The scans are those of `get_col`, `display_column`, `line_bounds`, `get_line_number` and
`format_pointer`.
-/

namespace Caret

/-- What a scan knows of a sequence. -/
structure Reader where
  length : Nat
  look : Int → Except Fault Value
  /-- Whether a return ends its line if the sequence ends behind it. -/
  final : Except Fault Bool

namespace Reader

variable (r : Reader)

def check (index : Int) : Except Fault Nat :=
  if 0 ≤ index ∧ index < r.length then .ok index.toNat else .error (.outside index r.length)

/-- The index behind the break before an index, or the first index. -/
def back : Nat → Except Fault Nat
  | 0 => .ok 0
  | i + 1 => do
    let v ← r.look i
    if v.isLineBreak then pure (i + 1) else back i

def column (index : Int) : Except Fault Int := do
  let i ← r.check index
  let start ← r.back i
  pure (index - start + 1)

/-- The first index has nothing before it, so it is not looked at. -/
def isPairTail : Nat → Except Fault Bool
  | 0 => .ok false
  | i + 1 => do
    let v ← r.look (i + 1 : Nat)
    if v.isLineFeed then do
      let u ← r.look i
      pure u.isReturn
    else pure false

def displayColumn (index : Int) : Except Fault Int := do
  let i ← r.check index
  if ← r.isPairTail i then do
    let c ← r.column (index - 1)
    pure (c + 1)
  else r.column index

/-- Asks about the line of an index that has been checked. At the line feed of a pair it starts over
one index before. -/
def onLine {α : Type} (ask : Nat → Except Fault α) : Nat → Except Fault α
  | 0 => ask 0
  | i + 1 => do
    if ← r.isPairTail (i + 1) then do
      let _ ← r.check i
      onLine ask i
    else ask (i + 1)

def lineStart (i : Nat) : Except Fault Int := do
  let c ← r.column i
  pure (i - c + 1)

/-- The index of the break or the end marker that is met first among some elements, or the one behind
them. -/
def forward : Nat → Nat → Except Fault Nat
  | 0, stop => .ok stop
  | left + 1, stop => do
    let v ← r.look stop
    if v.isEot || v.isLineBreak then pure stop else forward left (stop + 1)

def lineBounds (index : Int) : Except Fault (Int × Int) := do
  let i ← r.check index
  r.onLine (fun i => do
    let start ← r.lineStart i
    let stop ← r.forward (r.length - i) i
    pure (start, (stop : Int))) i

def endsLine (i : Nat) : Except Fault Bool := do
  let v ← r.look i
  if v.isLineFeed then pure true
  else if v.isReturn then
    if r.length ≤ i + 1 then r.final
    else do
      let next ← r.look (i + 1 : Nat)
      pure (!next.isLineFeed)
  else pure false

/-- The number of lines that end among the first elements. -/
def linesEnded : Nat → Except Fault Nat
  | 0 => .ok 0
  | n + 1 => do
    let ended ← linesEnded n
    let ends ← r.endsLine n
    pure (ended + if ends then 1 else 0)

def lineNumber (index : Int) : Except Fault Nat := do
  let i ← r.check index
  r.onLine (fun i => do
    let start ← r.lineStart i
    let ended ← r.linesEnded start.toNat
    pure (ended + 1)) i

end Reader

/-! ### Sequences -/

def Sequence.operand : Sequence → Operand
  | .text t => .value (.text t)
  | .list xs => .value (.list xs)
  | .tuple xs => .value (.tuple xs)
  | .source s => .source s
  | .window w => .window w

/-- Looks at the items of a sequence, by indices that count from the end if they are below zero. -/
def Sequence.reader (s : Sequence) : Reader := ⟨s.elements.length, s.operand.get, .ok true⟩

namespace Reader

def gutter (r : Reader) (style : PointerStyle) (index : Int) : Except Fault Text :=
  if style.lineNumbers.truthy then do
    let n ← r.lineNumber index
    pure (Text.ofNat n ++ text ": ")
  else pure []

/-- The display of an index, with the line cut out of the sequence between the bounds that a scan has
found. -/
def pointAt (r : Reader) (s : Sequence) (index : Int) (headline : Value) (style : PointerStyle) :
    Except Fault Text := do
  let mark ← checkMark style.mark
  let column ← r.displayColumn index
  let (start, stop) ← r.lineBounds index
  let gutter ← r.gutter style index
  let line ← s.operand.slice (.between (some start) (some stop))
  let shown ← line.list
  let pad ← copies (text " ") (gutter.length + column - 1)
  withHeadline headline (gutter ++ mask shown ++ text "\n" ++ pad ++ [mark])

end Reader

end Caret

import Caret.Lines
import Caret.Mask

/-!
# Pointers

A pointer display shows the line of an index, and below it a mark under the element at the index. A
headline may stand above, and the line's number before the line. `checkMark` is
`check_pointer_char`, a style is a `DiagnosticsConfig`, and `pointAt` is `format_pointer`.
-/

namespace Caret

/-- How a display looks. Both parts can be assigned from outside without a check, so the mark is
checked again whenever a display is made. -/
structure PointerStyle where
  mark : Value
  lineNumbers : Value

/-- The mark takes one visible column. -/
def checkMark (mark : Value) : Except Fault CodePoint :=
  match mark.char? with
  | some c => if c.isPrint && c != CodePoint.ofChar ' ' then .ok c else .error (.badPointer mark)
  | none => .error (.badPointer mark)

namespace PointerStyle

def standard : PointerStyle := ⟨.text (text "^"), .bool true⟩

def make (mark lineNumbers : Value) : Except Fault PointerStyle :=
  (checkMark mark).map fun _ => ⟨mark, lineNumbers⟩

def gutter (style : PointerStyle) (line : Nat) : Text :=
  if style.lineNumbers.truthy then Text.ofNat line ++ text ": " else []

end PointerStyle

/-- Puts a headline above a display; one that is empty or missing is left out. -/
def withHeadline (headline : Value) (display : Text) : Except Fault Text :=
  match headline with
  | .text [] => .ok display
  | .text t => .ok (t ++ text "\n" ++ display)
  | v => if v.truthy then .error (.notText 0 v) else .ok display

def pointAt (s : Sequence) (index : Int) (headline : Value) (style : PointerStyle) :
    Except Fault Text := do
  let mark ← checkMark style.mark
  let i ← indexIn s.elements index
  let line ← s.between (lineStart s.elements i) (lineStop s.elements i)
  let gutter := style.gutter (lineNumber s.elements i)
  -- no longer than the line and its gutter, so it is not checked for its size
  let pad ← copies (text " ") (gutter.length + displayColumn s.elements i - 1)
  withHeadline headline (gutter ++ mask line.elements ++ text "\n" ++ pad ++ [mark])

end Caret

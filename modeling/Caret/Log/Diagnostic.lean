import Caret.Log.Record
import Caret.Pointer

/-!
# Diagnostics as events

A diagnostic is logged as a pointer display under a headline that begins with the location. The
location is also given as extra fields, with the masked line. The event is the one that
`_log_pointer` makes.
-/

namespace Caret

structure Diagnostic where
  sequence : Sequence
  index : Int
  message : Value
  style : PointerStyle

namespace Diagnostic

def location (d : Diagnostic) : Except Fault Location :=
  (indexIn d.sequence.elements d.index).map (locate d.sequence.elements)

def headline (d : Diagnostic) (l : Location) : Value :=
  .text (l.display ++ text ": " ++ d.message.display)

def fields (d : Diagnostic) (l : Location) : Except Fault Value := do
  let i ← indexIn d.sequence.elements d.index
  let line ← d.sequence.between (lineStart d.sequence.elements i) (lineStop d.sequence.elements i)
  pure (.dictionary [
    (.text (text "source_line"), .int l.line),
    (.text (text "column"), .int l.column),
    (.text (text "index"), .int d.index),
    (.text (text "snippet"), .text (mask line.elements))])

def event (d : Diagnostic) (level : Int) : Except Fault Event := do
  let l ← d.location
  let display ← pointAt d.sequence d.index (d.headline l) d.style
  let fields ← d.fields l
  pure ⟨level, .text display, [], some fields, none⟩

end Diagnostic

end Caret

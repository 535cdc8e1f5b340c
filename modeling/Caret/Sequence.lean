import Caret.Source.Decode

/-!
# Sequences

Every kind of sequence that a diagnostic may point into. What a diagnostic says depends on the
elements alone; the kind decides what a slice of the sequence is.
-/

namespace Caret

inductive Sequence where
  | text (t : Text)
  | list (items : List Value)
  | tuple (items : List Value)
  | source (s : Source)
  | window (w : Window)

namespace Sequence

def elements : Sequence → List Value
  | .text t => t.map Value.ofCodePoint
  | .list xs => xs
  | .tuple xs => xs
  | .source s => s.items
  | .window w => w.toList

/-- The part between two offsets. -/
def between (start stop : Nat) : Sequence → Except Fault Sequence
  | .text t => .ok (.text ((Slice.between (some start) (some stop)).part t))
  | .list xs => .ok (.list ((Slice.between (some start) (some stop)).part xs))
  | .tuple xs => .ok (.tuple ((Slice.between (some start) (some stop)).part xs))
  | .source s => (s.slice (.between (some start) (some stop))).map .window
  | .window w => (w.slice (.between (some start) (some stop))).map .window

/-- Offsets in order and inside the sequence are refused by no kind of sequence. -/
theorem between_eq_ok (s : Sequence) {a b : Nat} (hab : a ≤ b) (hb : b ≤ s.elements.length) :
    ∃ line, s.between a b = .ok line ∧ line.elements = (s.elements.take b).drop a := by
  cases s with
  | text t =>
    have hb : b ≤ t.length := by simpa [elements] using hb
    refine ⟨_, rfl, ?_⟩
    rw [elements, Slice.part_between t hab hb, elements, List.map_drop, List.map_take]
  | list xs => exact ⟨_, rfl, Slice.part_between xs hab hb⟩
  | tuple xs => exact ⟨_, rfl, Slice.part_between xs hab hb⟩
  | source s =>
    have hb : b ≤ s.length := hb
    refine ⟨.window ⟨s.items, a, b, hab, hb⟩, ?_, rfl⟩
    rw [between, Source.slice, Slice.lower_between hab hb, Slice.upper_between hab hb,
      Window.ofBounds_natCast hab hb]
    rfl
  | window w =>
    have hb : b ≤ w.length := by simpa [elements] using hb
    have hstop : w.start + b ≤ w.stop := by
      have hle := w.start_le_stop
      unfold Window.length at hb
      omega
    have hlength : w.start + b ≤ w.items.length := Nat.le_trans hstop w.stop_le_length
    have hstart : w.start + a ≤ w.start + b := Nat.add_le_add_left hab _
    refine ⟨.window ⟨w.items, w.start + a, w.start + b, hstart, hlength⟩, ?_, ?_⟩
    · rw [between, Window.slice, Slice.lower_between hab hb, Slice.upper_between hab hb,
        Window.ofBounds_natCast hstart hlength]
      rfl
    · show (w.items.take (w.start + b)).drop (w.start + a) =
        (((w.items.take w.stop).drop w.start).take b).drop a
      rw [List.take_drop, List.take_take, List.drop_drop, Nat.min_eq_left hstop]

/-- The elements as one text. Only texts can be written; the end marker is left out beforehand, by
cutting a window that stops short of it. -/
def toText : Sequence → Except Fault Text
  | .text t => .ok t
  | s => joinTexts .notCharacter 0 s.elements

end Sequence

end Caret

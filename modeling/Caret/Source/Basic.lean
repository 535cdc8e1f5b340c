import Caret.Index
import Caret.Window

/-!
# Sources

A source is the list of characters that a scanner reads, closed by the end marker. The marker is no
character, so every character of a text may stand in a source, and a scanner that meets the marker
has read all of it. A source is a `CharSequence`, and the marker is `EOT`.
-/

namespace Caret

structure Source where
  body : List Value
  body_unmarked : ∀ v ∈ body, v.isEot = false

namespace Source

def items (s : Source) : List Value := s.body ++ [.eot]

def length (s : Source) : Nat := s.items.length

/-- All elements but the last, with the last one. -/
def splitEnd? : List Value → Option (List Value × Value)
  | [] => none
  | [v] => some ([], v)
  | v :: vs => (splitEnd? vs).map fun p => (v :: p.1, p.2)

def ofItems (items : List Value) : Except Fault Source :=
  match splitEnd? items with
  | some (body, .eot) =>
    if h : ∀ v ∈ body, v.isEot = false then .ok ⟨body, h⟩ else .error .earlyEnd
  | _ => .error .unmarkedEnd

def get (s : Source) (index : Int) : Except Fault Value := itemAt (text "tuple") s.items index

theorem get_outside (s : Source) {k : Int}
    (h : k < -(s.items.length : Int) ∨ (s.items.length : Int) ≤ k) :
    ∃ f, s.get k = .error f ∧ f.kind = .index := by
  rcases itemAt_outside (text "tuple") s.items k h with h | h
  · exact ⟨_, h, rfl⟩
  · exact ⟨_, h, rfl⟩

def slice (s : Source) (cut : Slice) : Except Fault Window := do
  cut.checkStep .steppedSource
  Window.ofBounds s.items (cut.lower s.length : Nat) (cut.upper s.length : Nat)

def same (s t : Source) : Bool := Value.sameItems s.items t.items

theorem same_refl (s : Source) : s.same s = true := Value.sameItems_refl s.items

end Source

/-! ### Text of elements -/

/-- Writes elements one after the other; `bad` is the fault of the first that is no text. -/
def joinTexts (bad : Nat → Value → Fault) : Nat → List Value → Except Fault Text
  | _, [] => .ok []
  | position, .text t :: vs => (joinTexts bad (position + 1) vs).map (t ++ ·)
  | position, v :: _ => .error (bad position v)

/-- The characters of the source as one text, the marker left out. -/
def Source.toText (s : Source) : Except Fault Text := joinTexts .notText 0 s.body

end Caret

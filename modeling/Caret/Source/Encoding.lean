import Caret.Source.Decode

/-!
# Encodings of characters

A text encodes a list of characters when each of them, in order, is written as itself or, beyond
U+FFFF, as its pair of surrogates. `Text.characters` reads exactly the encodings, and refuses a text
at the first surrogate that stands alone.
-/

namespace Caret.Text

inductive Encodes : Text → Text → Prop where
  | nil : Encodes [] []
  | character {c : CodePoint} {t cs : Text} (h : c.isSurrogate = false) :
      Encodes t cs → Encodes (c :: t) (c :: cs)
  | pair {c : CodePoint} {t cs : Text} (h : 0x10000 ≤ c.val) :
      Encodes t cs → Encodes (c.highPart :: c.lowPart :: t) (c :: cs)

/-- The unit at an offset is a surrogate whose partner is not beside it. -/
def isLoneAt (t : Text) (k : Nat) : Bool :=
  match t[k]? with
  | none => false
  | some c =>
    c.isHighSurrogate && !(t[k + 1]?).any CodePoint.isLowSurrogate ||
    c.isLowSurrogate && (k == 0 || !(t[k - 1]?).any CodePoint.isHighSurrogate)

/-- The number of offsets at which a high surrogate stands directly before a low one. -/
def pairs (t : Text) : Nat :=
  (t.zip t.tail).countP fun p => p.1.isHighSurrogate && p.2.isLowSurrogate

theorem Encodes.append {s t cs ds : Text} (h : Encodes s cs) (k : Encodes t ds) :
    Encodes (s ++ t) (cs ++ ds) := by
  induction h with
  | nil => exact k
  | character hc _ ih => exact .character hc ih
  | pair hc _ ih => exact .pair hc ih

end Caret.Text

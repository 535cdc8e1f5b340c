import Caret.Lines

/-!
# What a question reads

The offsets at which a question about an index looks, in order. Where an element may be missing, the
question cannot be answered if it looks there, and the first such offset is the one to report.
-/

namespace Caret

/-- From the element before an offset down to the break that is found first. -/
def columnReads (xs : List Value) (i : Nat) : List Nat := (List.range i).reverse.take (column xs i)

/-- The element, and the one before it if the element may be the tail of a pair. -/
def pairReads (xs : List Value) : Nat → List Nat
  | 0 => []
  | i + 1 => (i + 1) :: if xs[i + 1]?.any Value.isLineFeed then [i] else []

def displayColumnReads (xs : List Value) (i : Nat) : List Nat :=
  pairReads xs i ++ columnReads xs (anchor xs i)

/-- The elements of the line from an offset on, with the one that ends it. -/
def stopReads (xs : List Value) (i : Nat) : List Nat :=
  (List.range' (anchor xs i) (lineStop xs i + 1 - anchor xs i)).filter (· < xs.length)

def boundsReads (xs : List Value) (i : Nat) : List Nat :=
  pairReads xs i ++ columnReads xs (anchor xs i) ++ stopReads xs i

/-- An element, and the one after it if the element is a return. -/
def breakReads (xs : List Value) (i : Nat) : List Nat :=
  i :: if xs[i]?.any Value.isReturn && decide (i + 1 < xs.length) then [i + 1] else []

def lineNumberReads (xs : List Value) (i : Nat) : List Nat :=
  pairReads xs i ++ columnReads xs (anchor xs i) ++
    (List.range (lineStart xs i)).flatMap (breakReads xs)

def Query.reads (q : Query) (xs : List Value) (i : Nat) : List Nat :=
  match q with
  | .inside => []
  | .column => columnReads xs i
  | .displayColumn => displayColumnReads xs i
  | .lineNumber => lineNumberReads xs i
  | .lineBounds => boundsReads xs i
  | .location => lineNumberReads xs i ++ displayColumnReads xs i

/-! ### Bounds -/

theorem anchor_le (xs : List Value) (i : Nat) : anchor xs i ≤ i := by
  unfold anchor
  split <;> omega

theorem lineStart_le (xs : List Value) (i : Nat) : lineStart xs i ≤ i := by
  have h := column_pos xs (anchor xs i)
  have ha := anchor_le xs i
  unfold lineStart
  omega

end Caret

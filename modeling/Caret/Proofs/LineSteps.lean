import Caret.Lines.Reads
import Caret.Lines.Walk
import Mathlib.Data.Nat.Init
import Mathlib.Tactic.Common

/-!
# Lines, one element at a time

The functions of `Caret.Lines` look around an index: back to the break before it, forward to the
break after it, and again over all that stands before its line. This file says how each of them moves
from an index to the next one. Only whether the element in between ends its line (`endsAt`) decides.
Main statement: locations are those of a walk from the start, and no two indices share one.
-/

namespace Caret

/-! ### The element that ends a line -/

/-- The element at an index is the last of its line. -/
def endsAt (xs : List Value) (i : Nat) : Bool :=
  match xs.drop i with
  | [] => false
  | v :: rest => endsLine v rest

theorem endsAt_eq {xs : List Value} {i : Nat} (hi : i < xs.length) :
    endsAt xs i = endsLine xs[i] (xs.drop (i + 1)) := by
  rw [endsAt, List.drop_eq_getElem_cons hi]

@[simp] theorem endsAt_cons_zero (v : Value) (rest : List Value) :
    endsAt (v :: rest) 0 = endsLine v rest := rfl

@[simp] theorem endsAt_cons_succ (v : Value) (rest : List Value) (i : Nat) :
    endsAt (v :: rest) (i + 1) = endsAt rest i := rfl

theorem endsAt_drop (xs : List Value) (a i : Nat) : endsAt (xs.drop a) i = endsAt xs (a + i) := by
  rw [endsAt, endsAt, List.drop_drop]

/-- The element after decides with it, so it has to be in sight. -/
theorem endsAt_take {xs : List Value} {b i : Nat} (h : i + 1 < b) :
    endsAt (xs.take b) i = endsAt xs i := by
  rw [endsAt, endsAt, List.drop_take]
  obtain ⟨n, hn⟩ : ∃ n, b - i = n + 2 := ⟨b - i - 2, by omega⟩
  rw [hn]
  cases xs.drop i with
  | nil => rfl
  | cons v rest => cases rest <;> rfl

theorem not_lineFeed_of_return {v : Value} (h : v.isReturn = true) : v.isLineFeed = false := by
  rw [Value.isReturn_iff.mp h]
  rfl

theorem isPairTail_succ {xs : List Value} {i : Nat} (hi : i < xs.length) :
    isPairTail xs (i + 1) =
      (xs[i].isReturn && (xs.drop (i + 1)).head?.any Value.isLineFeed) := by
  rw [isPairTail, List.getElem?_eq_getElem hi, List.head?_drop, Bool.and_comm]
  rfl

theorem isPairTail_iff {xs : List Value} {i : Nat} : isPairTail xs i = true ↔
    0 < i ∧ xs[i - 1]? = some (.ofCodePoint (CodePoint.ofChar '\r')) ∧
      xs[i]? = some (.ofCodePoint (CodePoint.ofChar '\n')) := by
  cases i with
  | zero => simp [isPairTail]
  | succ i =>
    simp [isPairTail, Option.any_eq_true, Value.isLineFeed_iff, Value.isReturn_iff, and_comm]

theorem isPairTail_eq_false {xs : List Value} {i : Nat} (hi : i < xs.length)
    (h : xs[i].isLineFeed = false) : isPairTail xs i = false := by
  cases ht : isPairTail xs i with
  | false => rfl
  | true =>
    obtain ⟨-, -, hf⟩ := isPairTail_iff.mp ht
    rw [List.getElem?_eq_getElem hi] at hf
    rw [Option.some.inj hf] at h
    cases h

/-- An element ends its line when it is a break that no pair goes on after. -/
theorem endsAt_eq_and {xs : List Value} {i : Nat} (hi : i < xs.length) :
    endsAt xs i = (xs[i].isLineBreak && !isPairTail xs (i + 1)) := by
  rw [endsAt_eq hi, endsLine, isPairTail_succ hi, Value.isLineBreak_eq]
  cases hr : xs[i].isReturn with
  | false => simp
  | true => simp [not_lineFeed_of_return hr]

theorem endsLine_eq_and (v : Value) (rest : List Value) :
    endsLine v rest = (v.isLineBreak && !isPairTail (v :: rest) 1) :=
  @endsAt_eq_and (v :: rest) 0 (by simp)

/-! ### Columns and starts of lines -/

theorem column_succ {xs : List Value} {i : Nat} (hi : i < xs.length) :
    column xs (i + 1) = if xs[i].isLineBreak then 1 else column xs i + 1 := by
  have htake : (xs.take (i + 1)).reverse = xs[i] :: (xs.take i).reverse := by
    rw [List.take_add_one, List.getElem?_eq_getElem hi]
    simp
  rw [column, htake, List.takeWhile_cons]
  by_cases hb : xs[i].isLineBreak = true
  · simp [hb]
  · simp [hb, column]

theorem anchor_eq_self {xs : List Value} {i : Nat} (h : isPairTail xs i = false) :
    anchor xs i = i := by simp [anchor, h]

theorem anchor_succ_of_isPairTail {xs : List Value} {i : Nat}
    (h : isPairTail xs (i + 1) = true) : anchor xs (i + 1) = i := by simp [anchor, h]

@[simp] theorem lineStart_zero (xs : List Value) : lineStart xs 0 = 0 :=
  Nat.le_zero.mp (lineStart_le xs 0)

/-- **One step of the start of the line**: it moves behind an element that ends its line, and stays
at any other one. -/
theorem lineStart_succ {xs : List Value} {i : Nat} (hi : i < xs.length) :
    lineStart xs (i + 1) = if endsAt xs i then i + 1 else lineStart xs i := by
  rw [endsAt_eq_and hi]
  cases ht : isPairTail xs (i + 1) with
  | true =>
    -- the return of a pair does not end its line, and its line feed is looked up there
    have hr : xs[i].isReturn = true := by
      rw [isPairTail_succ hi] at ht
      exact (Bool.and_eq_true_iff.mp ht).1
    have hself : isPairTail xs i = false := isPairTail_eq_false hi (not_lineFeed_of_return hr)
    rw [lineStart, lineStart, anchor_succ_of_isPairTail ht, anchor_eq_self hself]
    simp
  | false =>
    rw [lineStart, anchor_eq_self ht, column_succ hi]
    cases hb : xs[i].isLineBreak with
    | true => simp
    | false =>
      have hf : xs[i].isLineFeed = false := by
        rw [Value.isLineBreak_eq, Bool.or_eq_false_iff] at hb
        exact hb.1
      rw [lineStart, anchor_eq_self (isPairTail_eq_false hi hf), Bool.false_and]
      simp only [Bool.false_eq_true, if_false]
      omega

/-- A column counts from the start of the line. -/
theorem displayColumn_add_lineStart (xs : List Value) (i : Nat) :
    displayColumn xs i + lineStart xs i = i + 1 := by
  have hcol := column_le xs (anchor xs i)
  have hpos := column_pos xs (anchor xs i)
  cases i with
  | zero =>
    rw [lineStart_zero]
    rfl
  | succ i =>
    cases ht : isPairTail xs (i + 1) with
    | true =>
      rw [anchor_succ_of_isPairTail ht] at hcol hpos
      rw [lineStart, anchor_succ_of_isPairTail ht, displayColumn, if_pos ht, Nat.add_sub_cancel]
      omega
    | false =>
      rw [anchor_eq_self ht] at hcol hpos
      rw [lineStart, anchor_eq_self ht, displayColumn, ht]
      simp only [Bool.false_eq_true, if_false]
      omega

/-! ### Ends of lines -/

/-- The first offset from `k` on that holds a break or the end marker, or the end of the list. -/
def stopFrom (xs : List Value) (k : Nat) : Nat :=
  k + ((xs.drop k).takeWhile fun v => !v.isEot && !v.isLineBreak).length

theorem lineStop_eq (xs : List Value) (i : Nat) : lineStop xs i = stopFrom xs (anchor xs i) := rfl

theorem le_stopFrom (xs : List Value) (k : Nat) : k ≤ stopFrom xs k := Nat.le_add_right ..

theorem stopFrom_le_length {xs : List Value} {k : Nat} (hk : k ≤ xs.length) :
    stopFrom xs k ≤ xs.length := by
  have hle := (List.takeWhile_sublist (l := xs.drop k) fun v => !v.isEot && !v.isLineBreak).length_le
  rw [List.length_drop] at hle
  unfold stopFrom
  omega

theorem stopFrom_of_le {xs : List Value} {k : Nat} (hk : xs.length ≤ k) : stopFrom xs k = k := by
  rw [stopFrom, List.drop_eq_nil_of_le hk]
  rfl

/-- **One step of the end of the line.** -/
theorem stopFrom_of_lt {xs : List Value} {k : Nat} (hk : k < xs.length) :
    stopFrom xs k = if xs[k].isEot || xs[k].isLineBreak then k else stopFrom xs (k + 1) := by
  rw [stopFrom, List.drop_eq_getElem_cons hk, List.takeWhile_cons, ← Bool.not_or]
  cases hs : xs[k].isEot || xs[k].isLineBreak with
  | true => rfl
  | false =>
    rw [Bool.not_false, if_pos rfl, if_neg Bool.false_ne_true, stopFrom, List.length_cons]
    omega

/-- A break ends the line that it is on. -/
theorem stopFrom_of_isLineBreak {xs : List Value} {k : Nat}
    (h : xs[k]?.any Value.isLineBreak = true) : stopFrom xs k = k := by
  obtain ⟨v, hv, hb⟩ := (Option.any_eq_true ..).mp h
  obtain ⟨hk, rfl⟩ := List.getElem?_eq_some_iff.mp hv
  rw [stopFrom, List.drop_eq_getElem_cons hk, List.takeWhile_cons_of_neg (by simp [hb])]
  rfl

theorem isLineBreak_of_isPairTail {xs : List Value} {i : Nat} (h : isPairTail xs i = true) :
    xs[i]?.any Value.isLineBreak = true ∧ xs[i - 1]?.any Value.isLineBreak = true := by
  obtain ⟨-, hr, hf⟩ := isPairTail_iff.mp h
  rw [hr, hf]
  exact ⟨rfl, rfl⟩

theorem lineStop_of_isPairTail {xs : List Value} {i : Nat} (h : isPairTail xs i = true) :
    lineStop xs i = i - 1 := by
  rw [lineStop_eq, anchor, if_pos h]
  exact stopFrom_of_isLineBreak (isLineBreak_of_isPairTail h).2

theorem lineStop_of_not_isPairTail {xs : List Value} {i : Nat} (h : isPairTail xs i = false) :
    lineStop xs i = stopFrom xs i := by
  rw [lineStop_eq, anchor_eq_self h]

theorem lineStart_le_lineStop (xs : List Value) (i : Nat) : lineStart xs i ≤ lineStop xs i := by
  have hpos := column_pos xs (anchor xs i)
  have hle := le_stopFrom xs (anchor xs i)
  rw [lineStop_eq, lineStart]
  omega

theorem lineStop_le_length {xs : List Value} {i : Nat} (hi : i < xs.length) :
    lineStop xs i ≤ xs.length :=
  stopFrom_le_length (Nat.le_trans (anchor_le xs i) (Nat.le_of_lt hi))

/-- An index that is not inside the line holds the break or the marker at its end, or the tail of the
pair there. -/
theorem lineStop_of_le {xs : List Value} {i : Nat} (h : lineStop xs i ≤ i) :
    i = if isPairTail xs i then lineStop xs i + 1 else lineStop xs i := by
  cases ht : isPairTail xs i with
  | true =>
    have hpos := (isPairTail_iff.mp ht).1
    rw [if_pos rfl, lineStop_of_isPairTail ht]
    omega
  | false =>
    have hle := le_stopFrom xs i
    rw [if_neg Bool.false_ne_true]
    rw [lineStop_of_not_isPairTail ht] at h ⊢
    omega

/-! ### Numbers of lines -/

theorem linesEnded_succ (n : Nat) (xs : List Value) :
    linesEnded (n + 1) xs = linesEnded n xs + if endsAt xs n then 1 else 0 := by
  induction xs generalizing n with
  | nil => cases n <;> rfl
  | cons v rest ih =>
    cases n with
    | zero =>
      rw [linesEnded, endsAt_cons_zero, linesEnded, linesEnded]
      omega
    | succ n =>
      rw [linesEnded, ih, endsAt_cons_succ, linesEnded]
      omega

/-- No line ends between the start of a line and an index on it, so all that end before the index
may be counted. -/
theorem lineNumber_eq {xs : List Value} {i : Nat} (hi : i ≤ xs.length) :
    lineNumber xs i = linesEnded i xs + 1 := by
  induction i with
  | zero => rw [lineNumber, lineStart_zero]
  | succ i ih =>
    have ih := ih (by omega)
    rw [lineNumber] at ih ⊢
    rw [lineStart_succ hi]
    by_cases he : endsAt xs i = true
    · rw [if_pos he]
    · rw [if_neg he, ih, linesEnded_succ, if_neg he]

@[simp] theorem lineNumber_zero (xs : List Value) : lineNumber xs 0 = 1 := by
  rw [lineNumber, lineStart_zero]
  rfl

/-- **One step of the line number.** -/
theorem lineNumber_succ {xs : List Value} {i : Nat} (hi : i < xs.length) :
    lineNumber xs (i + 1) = lineNumber xs i + if endsAt xs i then 1 else 0 := by
  rw [lineNumber_eq hi, lineNumber_eq (Nat.le_of_lt hi), linesEnded_succ]
  omega

theorem lineNumber_pos (xs : List Value) (i : Nat) : 0 < lineNumber xs i := Nat.succ_pos _

/-- Of two indices the later one is on the same line, with the same start, or on a later line, which
begins behind the earlier index. -/
theorem same_line_or_later {xs : List Value} {i j : Nat} (hij : i ≤ j) (hj : j ≤ xs.length) :
    lineNumber xs j = lineNumber xs i ∧ lineStart xs j = lineStart xs i ∨
      lineNumber xs i < lineNumber xs j ∧ i < lineStart xs j := by
  induction j, hij using Nat.le_induction with
  | base => exact Or.inl ⟨rfl, rfl⟩
  | succ j hij ih =>
    have ih := ih (Nat.le_of_lt hj)
    rw [lineNumber_succ hj, lineStart_succ hj]
    by_cases he : endsAt xs j = true
    · rw [if_pos he, if_pos he]
      omega
    · rw [if_neg he, if_neg he]
      exact ih

/-! ### Locations -/

/-- Reading order: line by line, and on a line from left to right. -/
def Location.Precedes (a b : Location) : Prop :=
  a.line < b.line ∨ a.line = b.line ∧ a.column < b.column

theorem Location.Precedes.trans {a b c : Location} (h : a.Precedes b) (k : b.Precedes c) :
    a.Precedes c := by
  unfold Location.Precedes at h k ⊢
  omega

theorem Location.Precedes.ne {a b : Location} (h : a.Precedes b) : a ≠ b := by
  rintro rfl
  unfold Location.Precedes at h
  omega

/-- The location after an element, which may be the last of its line. -/
def Location.after (l : Location) (ends : Bool) : Location :=
  if ends then ⟨l.line + 1, 1⟩ else ⟨l.line, l.column + 1⟩

theorem Location.precedes_after (l : Location) (ends : Bool) : l.Precedes (l.after ends) := by
  cases ends with
  | true => exact Or.inl (Int.lt_succ _)
  | false => exact Or.inr ⟨rfl, Int.lt_succ _⟩

theorem walk_succ {xs : List Value} {i : Nat} (hi : i < xs.length) :
    walk xs (i + 1) = (walk xs i).after (endsAt xs i) := by
  rw [walk, walkFrom_succ _ (List.drop_eq_getElem_cons hi), Location.next, ← endsAt_eq hi]
  rfl

@[simp] theorem locate_zero (xs : List Value) : locate xs 0 = ⟨1, 1⟩ := by
  rw [locate, lineNumber_zero]
  rfl

/-- **One step of the location.** Looking around the index comes to the same as moving on. -/
theorem locate_succ {xs : List Value} {i : Nat} (hi : i < xs.length) :
    locate xs (i + 1) = (locate xs i).after (endsAt xs i) := by
  have hline := lineNumber_succ hi
  have hstart := lineStart_succ hi
  have hcol := displayColumn_add_lineStart xs i
  have hcol' := displayColumn_add_lineStart xs (i + 1)
  cases he : endsAt xs i with
  | true =>
    rw [he, if_pos rfl] at hline hstart
    have hone : displayColumn xs (i + 1) = 1 := by omega
    simp [locate, Location.after, hline, hone]
  | false =>
    rw [he, if_neg Bool.false_ne_true] at hline hstart
    have hnext : displayColumn xs (i + 1) = displayColumn xs i + 1 := by omega
    simp [locate, Location.after, hline, hnext]

theorem locate_eq {xs : List Value} {i : Nat} (hi : i ≤ xs.length) : locate xs i = walk xs i := by
  induction i with
  | zero => simp
  | succ i ih => rw [locate_succ hi, walk_succ hi, ih (Nat.le_of_lt hi)]

theorem locate_precedes {xs : List Value} {i j : Nat} (hij : i < j) (hj : j ≤ xs.length) :
    (locate xs i).Precedes (locate xs j) := by
  induction j, hij using Nat.le_induction with
  | base =>
    rw [locate_succ hj]
    exact Location.precedes_after _ _
  | succ j hij ih =>
    rw [locate_succ hj]
    exact (ih (Nat.le_of_lt hj)).trans (Location.precedes_after _ _)

/-- **The location of an index is where a walk from the start arrives.** Locations ascend in reading
order with the index, so each belongs to one index only. -/
theorem location_eq_walk (xs : List Value) :
    (∀ i : Nat, i < xs.length → Query.location.answer xs i = .ok (.location (walk xs i))) ∧
    (∀ i j : Nat, i < j → j < xs.length → (locate xs i).Precedes (locate xs j)) ∧
    ∀ i j : Nat, i < xs.length → j < xs.length → i ≠ j → locate xs i ≠ locate xs j := by
  refine ⟨fun i hi => ?_, fun i j hij hj => locate_precedes hij (Nat.le_of_lt hj), ?_⟩
  · rw [Query.answer_location hi, locate_eq (Nat.le_of_lt hi)]
  · intro i j hi hj hne
    rcases Nat.lt_or_gt_of_ne hne with hij | hij
    · exact (locate_precedes hij (Nat.le_of_lt hj)).ne
    · exact (locate_precedes hij (Nat.le_of_lt hi)).ne.symm

/-- A return, a pair, and a return before the end marker are three breaks. -/
theorem location_eq_walk_breaks :
    let xs := [Value.text (text "\r"), .text (text "\r"), .text (text "\n"), .int 7,
      .text (text "\r"), .eot]
    Query.location.answer xs 2 = .ok (.location ⟨2, 2⟩) ∧
    (locate xs 2).Precedes (locate xs 5) ∧ locate xs 4 ≠ locate xs 2 := by
  intro xs
  obtain ⟨hwalk, hmono, hne⟩ := location_eq_walk xs
  exact ⟨hwalk 2 (by decide), hmono 2 5 (by decide) (by decide),
    hne 4 2 (by decide) (by decide) (by decide)⟩

end Caret

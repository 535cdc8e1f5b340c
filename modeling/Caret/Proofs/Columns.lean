import Caret.Proofs.LineBounds

/-!
# Columns

A column is counted back from an index to the break before it. The scan stops at once right behind
a break and at the first index, and it looks neither at the index nor behind it; so the line feed
of a pair has the first column, as any element behind a break has. A reader is shown that line feed
one column past its return. Main statement: the column is the only number whose count begins behind
a break or at the first index and passes no break, and it is the column shown, but for the line feed
of a pair.
-/

namespace Caret

/-- The element is a line feed or a return. -/
def BreakAt (xs : List Value) (k : Nat) : Prop :=
  xs[k]? = some (.ofCodePoint (CodePoint.ofChar '\n')) ∨
    xs[k]? = some (.ofCodePoint (CodePoint.ofChar '\r'))

theorem breakAt_iff {xs : List Value} {k : Nat} :
    BreakAt xs k ↔ xs[k]?.any Value.isLineBreak = true := by
  simp [BreakAt, Option.any_eq_true, Value.isLineBreak_eq, Value.isLineFeed_iff,
    Value.isReturn_iff, and_or_left, exists_or]

theorem EndsPair.breakAt {xs : List Value} {i : Nat} (h : EndsPair xs i) : BreakAt xs (i - 1) :=
  .inr h.2.1

/-! ### The column of an index -/

/-- The number counts the elements from one behind a break, or from the first, up to an index, with
no break before the index among them. -/
structure ColumnAt (xs : List Value) (i : Nat) (c : Int) : Prop where
  pos : 1 ≤ c
  le : c ≤ i + 1
  unbroken : ∀ k : Nat, i < k + c → k < i → ¬ BreakAt xs k
  begins : c = i + 1 ∨ ∃ k : Nat, k + c = i ∧ BreakAt xs k

theorem columnAt {xs : List Value} {i : Nat} (hi : i ≤ xs.length) :
    ColumnAt xs i (column xs i) := by
  have hpos := column_pos xs i
  have hle := column_le xs i
  refine ⟨by omega, by omega, ?_, ?_⟩
  · intro k hlow hk hbreak
    have hnone := not_isLineBreak_of_column hi (by omega) hk
    rw [breakAt_iff.mp hbreak] at hnone
    cases hnone
  · by_cases hfirst : column xs i = i + 1
    · left
      omega
    · right
      have hbreak := (isLineBreak_before_column hi).resolve_left hfirst
      exact ⟨i - column xs i, by omega, breakAt_iff.mpr hbreak⟩

/-- The first column is right behind a break. -/
theorem columnAt_one {xs : List Value} {i : Nat} (hi : 0 < i) (h : BreakAt xs (i - 1)) :
    ColumnAt xs i 1 :=
  ⟨Int.le_refl 1, by omega, fun k hlow hk => by omega, .inr ⟨i - 1, by omega, h⟩⟩

namespace ColumnAt

variable {xs : List Value} {i : Nat} {c d : Int}

/-- No other count goes past the break behind which one begins. -/
theorem count_le_count (h : ColumnAt xs i c) (h' : ColumnAt xs i d) : d ≤ c := by
  by_contra hlt
  rcases h.begins with hfirst | ⟨k, hk, hbreak⟩
  · have hle := h'.le
    omega
  · have hpos := h.pos
    exact h'.unbroken k (by omega) (by omega) hbreak

theorem unique (h : ColumnAt xs i c) (h' : ColumnAt xs i d) : c = d :=
  Int.le_antisymm (h'.count_le_count h) (h.count_le_count h')

end ColumnAt

/-- Nothing from the index on matters. -/
theorem column_eq_of_take_eq {xs ys : List Value} {i : Nat} (h : xs.take i = ys.take i) :
    column xs i = column ys i := by
  rw [column, column, h]

/-! ### Pairs -/

theorem displayColumn_of_not_endsPair {xs : List Value} {i : Nat} (h : ¬ EndsPair xs i) :
    displayColumn xs i = column xs i := by
  rw [displayColumn, if_neg (mt isPairTail_iff.mp h)]

theorem displayColumn_of_endsPair {xs : List Value} {i : Nat} (h : EndsPair xs i) :
    displayColumn xs i = column xs (i - 1) + 1 := by
  rw [displayColumn, if_pos (isPairTail_iff.mpr h)]

theorem column_of_endsPair {xs : List Value} {i : Nat} (hi : i ≤ xs.length) (h : EndsPair xs i) :
    column xs i = 1 := by
  have hone := (columnAt hi).unique (columnAt_one h.1 h.breakAt)
  omega

/-! ### Answers -/

/-- **A column is counted from the break before its index.** Of any sequence and any index inside
it the answer is the column of the index, and there is no other. Sequences that are alike before the
index give it alike, and a scan counts it from the break and the elements between the break and the
index, whatever its other looks give. It is the column shown, except at the line feed of a pair:
that has the first column, and is shown one column past its return. -/
theorem column_counted_back (s : Sequence) {i : Nat} (hi : i < s.elements.length) :
    let xs := s.elements
    ∃ c : Nat,
      Query.column.answer xs i = .ok (.int c) ∧ s.reader.column i = .ok c ∧
      ColumnAt xs i c ∧ (∀ d, ColumnAt xs i d → d = c) ∧
      (∀ t : Sequence, i < t.elements.length → t.elements.take i = xs.take i →
        Query.column.answer t.elements i = .ok (.int c)) ∧
      (∀ r : Reader, i < r.length →
        (∀ (k : Nat) (h : k < xs.length), i ≤ k + c → k < i → r.look k = .ok xs[k]) →
        r.column i = .ok c) ∧
      (¬ EndsPair xs i → Query.displayColumn.answer xs i = .ok (.int c) ∧
        s.reader.displayColumn i = .ok c) ∧
      (EndsPair xs i → c = 1 ∧ ∃ d : Nat, Query.column.answer xs (i - 1 : Nat) = .ok (.int d) ∧
        s.reader.column (i - 1 : Nat) = .ok d ∧
        Query.displayColumn.answer xs i = .ok (.int (d + 1)) ∧
        s.reader.displayColumn i = .ok (d + 1) ∧ 2 ≤ d + 1) := by
  intro xs
  have hshows : s.reader.Shows xs := s.reader_shows
  have hcolumn : ColumnAt xs i (column xs i) := columnAt (Nat.le_of_lt hi)
  have hshown := Query.answer_displayColumn hi
  have hscanned := hshows.displayColumn_eq hi
  refine ⟨column xs i, Query.answer_column hi, hshows.column_eq hi, hcolumn,
    fun d hd => hd.unique hcolumn, ?_, ?_, ?_, ?_⟩
  · intro t ht halike
    rw [Query.answer_column ht, column_eq_of_take_eq halike]
  · intro r hlength hlook
    exact Reader.column_of_looks (Nat.le_of_lt hi) hlook hlength
  · intro hpair
    rw [displayColumn_of_not_endsPair hpair] at hshown hscanned
    exact ⟨hshown, hscanned⟩
  · intro hpair
    have hbefore : i - 1 < xs.length := Nat.lt_of_le_of_lt (Nat.sub_le i 1) hi
    have hpos := column_pos xs (i - 1)
    rw [displayColumn_of_endsPair hpair] at hshown hscanned
    exact ⟨column_of_endsPair (Nat.le_of_lt hi) hpair, column xs (i - 1),
      Query.answer_column hbefore, hshows.column_eq hbefore, hshown, hscanned, by omega⟩

/-- Behind two breaks stand one element and a pair. The scan from the return is kept from looking
anywhere but at the element and at the break before it. -/
theorem column_counted_back_pair :
    let s := Sequence.list [.text (text "\n"), .text (text "\n"), .int 7, .text (text "\r"),
      .text (text "\n")]
    let t := Sequence.tuple [.text (text "\n"), .text (text "\n"), .int 7, .eot]
    let r : Reader := ⟨4,
      fun k => if k = 1 ∨ k = 2 then s.operand.get k else .error (.windowIndex k),
      .error .unmarkedEnd⟩
    ColumnAt s.elements 3 2 ∧ (∀ d, ColumnAt s.elements 3 d → d = 2) ∧
      Query.column.answer t.elements 3 = .ok (.int 2) ∧ r.column 3 = .ok 2 ∧
      Query.displayColumn.answer s.elements 3 = .ok (.int 2) ∧
      s.reader.column 4 = .ok 1 ∧ s.reader.displayColumn 4 = .ok 3 := by
  intro s t r
  obtain ⟨c, hanswer, -, hcolumn, hunique, halike, hlooks, hshown, -⟩ :=
    column_counted_back s (i := 3) (by decide)
  obtain ⟨c', -, hscanned', -, -, -, -, -, hpair⟩ := column_counted_back s (i := 4) (by decide)
  have hreturn : Query.column.answer s.elements 3 = .ok (.int 2) := rfl
  have hnot : ¬ EndsPair s.elements 3 := by
    rintro ⟨-, hbefore, -⟩
    cases hbefore
  have hlook : ∀ (k : Nat) (h : k < s.elements.length), 3 ≤ k + 2 → k < 3 →
      r.look k = .ok s.elements[k] := by
    intro k h hlow hk
    obtain rfl | rfl : k = 1 ∨ k = 2 := by omega
    · rfl
    · rfl
  obtain ⟨rfl, d, hbefore, -, -, hshown', -⟩ := hpair ⟨by decide, rfl, rfl⟩
  replace hreturn := hanswer.symm.trans hreturn
  replace hbefore := hbefore.symm.trans hanswer
  simp only [Except.ok.injEq, Value.int.injEq] at hreturn hbefore
  obtain rfl : c = 2 := by omega
  obtain rfl : d = 2 := by omega
  exact ⟨hcolumn, hunique, halike t (by decide) rfl, hlooks r (by decide) hlook, (hshown hnot).1,
    hscanned', hshown'⟩

end Caret

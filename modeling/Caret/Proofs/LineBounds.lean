import Caret.Proofs.PointerScans

/-!
# The bounds of a line

The scan back from an index stops behind a break and goes past markers; the scan forward stops at a
break and at a marker. At the line feed of a pair both begin at its return, which is no line feed, so
they begin anew once at most. Nothing is asked of the sequence: it may lack a marker at its end, and
have markers anywhere. Main statement: the bounds that are found are those of the line of the index,
and no others are.
-/

namespace Caret

/-! ### The scan back -/

/-- The scan back stops at the first index or behind a break. -/
theorem isLineBreak_before_column {xs : List Value} {i : Nat} (hi : i ≤ xs.length) :
    column xs i = i + 1 ∨ xs[i - column xs i]?.any Value.isLineBreak = true := by
  induction i with
  | zero => exact .inl rfl
  | succ i ih =>
    rw [column_succ hi]
    by_cases hb : xs[i].isLineBreak = true
    · right
      rw [if_pos hb, Nat.add_sub_cancel, List.getElem?_eq_getElem hi]
      exact hb
    · rw [if_neg hb]
      rcases ih (by omega) with hfirst | hbreak
      · left
        omega
      · right
        rwa [Nat.add_sub_add_right]

/-- And it passes no break. -/
theorem not_isLineBreak_of_column {xs : List Value} {i k : Nat} (hi : i ≤ xs.length)
    (hlow : i < k + column xs i) (hk : k < i) : xs[k]?.any Value.isLineBreak = false := by
  induction i with
  | zero => omega
  | succ i ih =>
    rw [column_succ hi] at hlow
    by_cases hb : xs[i].isLineBreak = true
    · rw [if_pos hb] at hlow
      omega
    · rw [if_neg hb] at hlow
      by_cases hki : k = i
      · subst hki
        rw [List.getElem?_eq_getElem hi]
        simpa using hb
      · exact ih (by omega) (by omega) (by omega)

/-! ### The scan forward -/

/-- The scan forward passes neither a break nor a marker. -/
theorem goes_on_before_stopFrom {xs : List Value} {k j : Nat} (hkj : k ≤ j)
    (hj : j < stopFrom xs k) :
    xs[j]?.any (fun v => v.isEot || v.isLineBreak) = false := by
  induction hn : xs.length - k generalizing k with
  | zero =>
    rw [stopFrom_of_le (by omega)] at hj
    omega
  | succ n ih =>
    have hk : k < xs.length := by omega
    rw [stopFrom_of_lt hk] at hj
    by_cases hs : (xs[k].isEot || xs[k].isLineBreak) = true
    · rw [if_pos hs] at hj
      omega
    · rw [if_neg hs] at hj
      by_cases hjk : j = k
      · subst hjk
        rw [List.getElem?_eq_getElem hk]
        exact Bool.eq_false_iff.mpr hs
      · exact ih (by omega) hj (by omega)

theorem stops_at_stopFrom {xs : List Value} {k : Nat} (hk : k ≤ xs.length) :
    stopFrom xs k = xs.length ∨
      xs[stopFrom xs k]?.any (fun v => v.isEot || v.isLineBreak) = true := by
  induction hn : xs.length - k generalizing k with
  | zero =>
    left
    rw [stopFrom_of_le (by omega)]
    omega
  | succ n ih =>
    have hk : k < xs.length := by omega
    rw [stopFrom_of_lt hk]
    by_cases hs : (xs[k].isEot || xs[k].isLineBreak) = true
    · right
      rw [if_pos hs, List.getElem?_eq_getElem hk]
      exact hs
    · rw [if_neg hs]
      exact ih (by omega) (by omega)

/-! ### The line of an index -/

/-- The index holds the line feed that goes with the return before it. -/
def EndsPair (xs : List Value) (i : Nat) : Prop :=
  0 < i ∧ xs[i - 1]? = some (.ofCodePoint (CodePoint.ofChar '\r')) ∧
    xs[i]? = some (.ofCodePoint (CodePoint.ofChar '\n'))

/-- The bounds are those of the line of an index. A marker ends the line only at the index or
behind it. -/
structure LineAt (xs : List Value) (i start stop : Nat) : Prop where
  start_le : start ≤ i
  ordered : start ≤ stop
  stop_le : stop ≤ xs.length
  begins : start = 0 ∨ xs[start - 1]?.any Value.isLineBreak = true
  unbroken : ∀ k, start ≤ k → k < stop → xs[k]?.any Value.isLineBreak = false
  ends : stop = xs.length ∨ xs[stop]?.any (fun v => v.isEot || v.isLineBreak) = true
  pair : EndsPair xs i → stop + 1 = i
  reaches : ¬ EndsPair xs i → i ≤ stop
  marker : ∀ k, start ≤ k → k < stop → xs[k]? = some .eot → k < i

theorem isLineBreak_of_goes_on {o : Option Value}
    (h : o.any (fun v => v.isEot || v.isLineBreak) = false) :
    o.any Value.isLineBreak = false ∧ o ≠ some .eot := by
  cases o with
  | none => exact ⟨rfl, nofun⟩
  | some v =>
    obtain ⟨heot, hbreak⟩ := Bool.or_eq_false_iff.mp h
    refine ⟨hbreak, fun hv => ?_⟩
    rw [Option.some.inj hv] at heot
    cases heot

theorem lineAt {xs : List Value} {i : Nat} (hi : i < xs.length) :
    LineAt xs i (lineStart xs i) (lineStop xs i) := by
  have hanchor : anchor xs i ≤ i := anchor_le xs i
  have hbefore : ∀ k, lineStart xs i ≤ k → k < lineStop xs i →
      xs[k]?.any Value.isLineBreak = false ∧ (anchor xs i ≤ k → xs[k]? ≠ some .eot) := by
    intro k hlow hhigh
    by_cases hk : k < anchor xs i
    · have hcolumn : anchor xs i < k + column xs (anchor xs i) := by
        rw [lineStart] at hlow
        omega
      exact ⟨not_isLineBreak_of_column (by omega) hcolumn hk, by omega⟩
    · obtain ⟨hbreak, heot⟩ :=
        isLineBreak_of_goes_on (goes_on_before_stopFrom (Nat.le_of_not_lt hk) hhigh)
      exact ⟨hbreak, fun _ => heot⟩
  refine ⟨lineStart_le xs i, lineStart_le_lineStop xs i, lineStop_le_length hi, ?_,
    fun k hlow hhigh => (hbefore k hlow hhigh).1, stops_at_stopFrom (by omega), ?_, ?_, ?_⟩
  · have hle := column_le xs (anchor xs i)
    rcases @isLineBreak_before_column xs (anchor xs i) (by omega) with hfirst | hbreak
    · left
      rw [lineStart]
      omega
    · right
      have hback : lineStart xs i - 1 = anchor xs i - column xs (anchor xs i) := by
        rw [lineStart]
        omega
      rw [hback]
      exact hbreak
  · intro hpair
    rw [lineStop_of_isPairTail (isPairTail_iff.mpr hpair)]
    have hpos := hpair.1
    omega
  · intro hpair
    have hnot : isPairTail xs i = false := Bool.eq_false_iff.mpr (mt isPairTail_iff.mp hpair)
    rw [lineStop_of_not_isPairTail hnot]
    exact le_stopFrom xs i
  · intro k hlow hhigh heot
    have hk : ¬ anchor xs i ≤ k := fun hk => (hbefore k hlow hhigh).2 hk heot
    omega

namespace LineAt

variable {xs : List Value} {i a b c d : Nat}

/-- A line begins no later than any other one of the same index. -/
theorem start_le_start (h : LineAt xs i a b) (k : LineAt xs i c d) : c ≤ a := by
  by_contra hlt
  have hreach : c ≤ b := by
    by_cases hpair : EndsPair xs i
    · have hb := h.pair hpair
      have hd := k.pair hpair
      have hordered := k.ordered
      omega
    · exact Nat.le_trans k.start_le (h.reaches hpair)
  rcases k.begins with hzero | hbreak
  · omega
  · rw [h.unbroken (c - 1) (by omega) (by omega)] at hbreak
    cases hbreak

/-- A line ends no sooner than any other one of the same index. -/
theorem stop_le_stop (h : LineAt xs i a b) (k : LineAt xs i c d) : d ≤ b := by
  by_contra hlt
  by_cases hpair : EndsPair xs i
  · have hb := h.pair hpair
    have hd := k.pair hpair
    omega
  · have hreach := h.reaches hpair
    have hstart := k.start_le
    rcases h.ends with hlength | hend
    · have hstop := k.stop_le
      omega
    · -- a marker between the bounds of the other line would stand before the index
      have hgoes : xs[b]?.any (fun v => v.isEot || v.isLineBreak) = false := by
        have hbreak := k.unbroken b (by omega) (by omega)
        have hmarker := k.marker b (by omega) (by omega)
        cases hv : xs[b]? with
        | none => rfl
        | some v =>
          rw [hv, Option.any_some] at hbreak
          have hne : v ≠ .eot := by
            rintro rfl
            have hbefore := hmarker hv
            omega
          rw [Option.any_some, hbreak, Bool.or_false, Bool.eq_false_iff, ne_eq, Value.isEot_iff]
          exact hne
      rw [hgoes] at hend
      cases hend

/-- An index is on one line only. -/
theorem unique (h : LineAt xs i a b) (k : LineAt xs i c d) : a = c ∧ b = d :=
  ⟨Nat.le_antisymm (k.start_le_start h) (h.start_le_start k),
    Nat.le_antisymm (k.stop_le_stop h) (h.stop_le_stop k)⟩

end LineAt

/-! ### Answers -/

theorem sub_anchor (xs : List Value) (i : Nat) :
    i - anchor xs i ≤ 1 ∧ (i - anchor xs i = 1 ↔ EndsPair xs i) := by
  cases ht : isPairTail xs i with
  | true =>
    have hpair := isPairTail_iff.mp ht
    have hpos := hpair.1
    rw [anchor, if_pos ht]
    exact ⟨by omega, iff_of_true (by omega) hpair⟩
  | false =>
    have hpair : ¬ EndsPair xs i := fun hpair => by
      rw [isPairTail_iff.mpr hpair] at ht
      cases ht
    rw [anchor_eq_self ht]
    exact ⟨by omega, iff_of_false (by omega) hpair⟩

/-- **The bounds of a line are found.** Of any sequence and any index inside it the answer is the line
of the index, and there is no other; the column is counted from its start. A scan over the sequence
finds the same bounds, and starts over just at the line feed of a pair and once only. -/
theorem bounds_of_line (s : Sequence) {i : Nat} (hi : i < s.elements.length) :
    let xs := s.elements
    ∃ start stop col calls : Nat,
      Query.lineBounds.answer xs i = .ok (.tuple [.int start, .int stop]) ∧
      Query.displayColumn.answer xs i = .ok (.int col) ∧
      (start : Int) + col - 1 = i ∧
      LineAt xs i start stop ∧ (∀ a b, LineAt xs i a b → a = start ∧ b = stop) ∧
      s.reader.lineBounds i = .ok (start, stop) ∧
      s.reader.lineBoundsCounted i = .ok ((start, stop), calls) ∧
      calls ≤ 1 ∧ (calls = 1 ↔ EndsPair xs i) := by
  intro xs
  have hshows : s.reader.Shows xs := s.reader_shows
  have hline : LineAt xs i (lineStart xs i) (lineStop xs i) := lineAt hi
  have hcolumn := displayColumn_add_lineStart xs i
  obtain ⟨hcalls, hpair⟩ := sub_anchor xs i
  exact ⟨lineStart xs i, lineStop xs i, displayColumn xs i, i - anchor xs i,
    Query.answer_lineBounds hi, Query.answer_displayColumn hi, by omega, hline,
    fun a b hab => hab.unique hline, hshows.lineBounds_eq hi, hshows.lineBoundsCounted_eq hi,
    hcalls, hpair⟩

/-- A marker stands on the line before a pair, and the line after it has neither break nor marker. -/
theorem bounds_of_line_past_marker :
    let s := Sequence.list [.text (text "a"), .eot, .text (text "\r"), .text (text "\n"), .int 7]
    LineAt s.elements 3 0 2 ∧ s.reader.lineBoundsCounted 3 = .ok ((0, 2), 1) ∧
      LineAt s.elements 4 4 5 ∧ s.reader.lineBoundsCounted 4 = .ok ((4, 5), 0) := by
  intro s
  obtain ⟨start, stop, -, calls, hanswer, -, -, hline, -, -, hcounted, -, hpair⟩ :=
    bounds_of_line s (i := 3) (by decide)
  obtain ⟨start', stop', -, calls', hanswer', -, -, hline', -, -, hcounted', hcalls', hpair'⟩ :=
    bounds_of_line s (i := 4) (by decide)
  have hbounds : Query.lineBounds.answer s.elements 3 = .ok (.tuple [.int 0, .int 2]) := rfl
  have hbounds' : Query.lineBounds.answer s.elements 4 = .ok (.tuple [.int 4, .int 5]) := rfl
  replace hbounds := hbounds.symm.trans hanswer
  replace hbounds' := hbounds'.symm.trans hanswer'
  simp only [Except.ok.injEq, Value.tuple.injEq, List.cons.injEq, Value.int.injEq]
    at hbounds hbounds'
  obtain ⟨rfl, rfl⟩ : start = 0 ∧ stop = 2 := by omega
  obtain ⟨rfl, rfl⟩ : start' = 4 ∧ stop' = 5 := by omega
  obtain rfl : calls = 1 := hpair.mpr ⟨by decide, rfl, rfl⟩
  have hnot : ¬ EndsPair s.elements 4 := by
    rintro ⟨-, -, hfeed⟩
    cases hfeed
  obtain rfl : calls' = 0 := by
    have hne := mt hpair'.mp hnot
    omega
  exact ⟨hline, hcounted, hline', hcounted'⟩

end Caret

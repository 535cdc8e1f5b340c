import Caret.Program.Scan
import Caret.Proofs.PointerRefusals
import Caret.Proofs.TupleRefinement

/-!
# No scan looks outside

A display is refused for its mark or its index, and for nothing that is met while it is made: from an
index inside the sequence, the scans look at elements of the sequence only, hand on indices inside it,
and find bounds that are in order. So what they do elsewhere cannot matter. Main statement: the
faults of a display under a headline that can be shown, and that the display made look by look is the
same whatever a look outside gives.
-/

namespace Caret

/-! ### Beginning anew -/

namespace Reader

variable (r : Reader)

/-- Asks as `onLine` does, and counts how often it starts over. -/
def onLineCounted {α : Type} (ask : Nat → Except Fault α) : Nat → Except Fault (α × Nat)
  | 0 => (ask 0).map (·, 0)
  | i + 1 => do
    if ← r.isPairTail (i + 1) then do
      let _ ← r.check i
      let (answer, calls) ← onLineCounted ask i
      pure (answer, calls + 1)
    else (ask (i + 1)).map (·, 0)

/-- Counting changes nothing. -/
theorem map_onLineCounted {α : Type} (ask : Nat → Except Fault α) (i : Nat) :
    (r.onLineCounted ask i).map Prod.fst = r.onLine ask i := by
  have hdirect : ∀ a : Except Fault α, (a.map (·, 0)).map Prod.fst = a := by
    intro a
    cases a <;> rfl
  induction i with
  | zero => exact hdirect (ask 0)
  | succ i ih =>
    rw [onLineCounted, onLine]
    simp only [bind, Except.bind, pure, Except.pure]
    cases r.isPairTail (i + 1) with
    | error f => rfl
    | ok tail =>
      cases tail with
      | false => exact hdirect (ask (i + 1))
      | true =>
        dsimp only
        rw [if_pos rfl, if_pos rfl, ← ih]
        cases r.check i with
        | error f => rfl
        | ok j => cases r.onLineCounted ask i <;> rfl

/-- The bounds of a line, with the number of times that the scan has started over. -/
def lineBoundsCounted (index : Int) : Except Fault ((Int × Int) × Nat) := do
  let i ← r.check index
  r.onLineCounted (fun i => do
    let start ← r.lineStart i
    let stop ← r.forward (r.length - i) i
    pure (start, (stop : Int))) i

theorem map_lineBoundsCounted (index : Int) :
    (r.lineBoundsCounted index).map Prod.fst = r.lineBounds index := by
  rw [lineBoundsCounted, lineBounds]
  cases r.check index with
  | error f => rfl
  | ok i => exact r.map_onLineCounted _ i

end Reader

/-! ### Looks of the scan back -/

namespace Reader

variable {r : Reader} {xs : List Value} {i : Nat} (hi : i ≤ xs.length)
  (hlook : ∀ (k : Nat) (h : k < xs.length), i ≤ k + Caret.column xs i → k < i →
    r.look k = .ok xs[k])
include hi hlook

/-- The scan back looks at what it passes and at the break that it stops behind. -/
theorem back_of_looks : r.back i = .ok (i + 1 - Caret.column xs i) := by
  induction i with
  | zero => rfl
  | succ i ih =>
    have hpos := column_pos xs (i + 1)
    have hcolumn := column_succ hi
    rw [back, hlook i hi (by omega) (by omega)]
    simp only [bind, Except.bind, pure, Except.pure]
    by_cases hb : xs[i].isLineBreak = true
    · rw [if_pos hb] at hcolumn ⊢
      rw [hcolumn]
      rfl
    · rw [if_neg hb] at hcolumn ⊢
      rw [ih (Nat.le_of_lt hi) fun k hk hlow hlt => hlook k hk (by omega) (by omega)]
      congr 1
      omega

/-- A column is counted from these looks, and from the length that tells if the index is inside. -/
theorem column_of_looks (hlength : i < r.length) :
    r.column i = .ok (Caret.column xs i : Int) := by
  have hle := column_le xs i
  have hcheck : r.check i = .ok i := by simp [check, hlength]
  rw [column, hcheck]
  simp only [bind, Except.bind, pure, Except.pure, back_of_looks hi hlook]
  congr 1
  omega

end Reader

/-! ### Readers of a list -/

/-- The reader has the elements in sight; nothing is said of looks outside. -/
structure Reader.Shows (r : Reader) (xs : List Value) : Prop where
  length : r.length = xs.length
  look : ∀ (i : Nat) (h : i < xs.length), r.look i = .ok xs[i]

namespace Reader.Shows

variable {r : Reader} {xs : List Value} (hr : r.Shows xs)
include hr

theorem check_eq (index : Int) : r.check index = indexIn xs index := by
  rw [check, indexIn, hr.length]

/-! ### Columns -/

theorem column_eq {i : Nat} (hi : i < xs.length) : r.column i = .ok (Caret.column xs i : Int) :=
  column_of_looks (Nat.le_of_lt hi) (fun k hk _ _ => hr.look k hk) (by rwa [hr.length])

theorem isPairTail_eq {i : Nat} (hi : i < xs.length) :
    r.isPairTail i = .ok (Caret.isPairTail xs i) := by
  cases i with
  | zero => rfl
  | succ i =>
    have hbefore := hr.look i (Nat.lt_of_succ_lt hi)
    rw [isPairTail, hr.look (i + 1) hi, Caret.isPairTail, List.getElem?_eq_getElem hi,
      List.getElem?_eq_getElem (Nat.lt_of_succ_lt hi), Option.any_some, Option.any_some]
    simp only [bind, Except.bind, pure, Except.pure, hbefore]
    cases xs[i + 1].isLineFeed <;> rfl

theorem displayColumn_eq {i : Nat} (hi : i < xs.length) :
    r.displayColumn i = .ok (Caret.displayColumn xs i : Int) := by
  rw [displayColumn, hr.check_eq, indexIn_natCast hi]
  simp only [bind, Except.bind, pure, Except.pure, hr.isPairTail_eq hi]
  rw [Caret.displayColumn]
  by_cases ht : Caret.isPairTail xs i = true
  · have hpos := (isPairTail_iff.mp ht).1
    have hback : (i : Int) - 1 = (i - 1 : Nat) := by omega
    rw [if_pos ht, if_pos ht, hback, hr.column_eq (by omega)]
    rfl
  · rw [if_neg ht, if_neg ht, hr.column_eq hi]

/-! ### Lines -/

/-- The scan starts over once at most: the return of a pair is no line feed. -/
theorem onLineCounted_eq {α : Type} (ask : Nat → Except Fault α) {i : Nat} (hi : i < xs.length) :
    r.onLineCounted ask i = (ask (anchor xs i)).map (·, i - anchor xs i) := by
  have direct {j : Nat} (hj : j < xs.length) (ht : Caret.isPairTail xs j = false) :
      r.onLineCounted ask j = (ask j).map (·, 0) := by
    cases j with
    | zero => rfl
    | succ j =>
      rw [onLineCounted, hr.isPairTail_eq hj, ht]
      rfl
  cases ht : Caret.isPairTail xs i with
  | false => rw [direct hi ht, anchor_eq_self ht, Nat.sub_self]
  | true =>
    obtain ⟨j, rfl⟩ : ∃ j, i = j + 1 := ⟨i - 1, by have := (isPairTail_iff.mp ht).1; omega⟩
    have hj : j < xs.length := Nat.lt_of_succ_lt hi
    have hreturn : xs[j].isReturn = true := by
      rw [isPairTail_succ hj] at ht
      exact (Bool.and_eq_true_iff.mp ht).1
    have hfirst := direct hj (isPairTail_eq_false hj (not_lineFeed_of_return hreturn))
    rw [onLineCounted, hr.isPairTail_eq hi, ht, anchor_succ_of_isPairTail ht, hr.check_eq,
      indexIn_natCast hj, Nat.add_sub_cancel_left]
    simp only [bind, Except.bind, pure, Except.pure, if_pos, hfirst]
    cases ask j <;> rfl

theorem onLine_eq {α : Type} (ask : Nat → Except Fault α) {i : Nat} (hi : i < xs.length) :
    r.onLine ask i = ask (anchor xs i) := by
  rw [← map_onLineCounted, hr.onLineCounted_eq ask hi]
  cases ask (anchor xs i) <;> rfl

theorem lineStart_eq {i : Nat} (hi : i < xs.length) :
    r.lineStart i = .ok ((i + 1 - Caret.column xs i : Nat) : Int) := by
  have hle := column_le xs i
  rw [lineStart, hr.column_eq hi]
  simp only [bind, Except.bind, pure, Except.pure]
  congr 1
  omega

theorem forward_eq {left k : Nat} (hk : k + left = xs.length) :
    r.forward left k = .ok (stopFrom xs k) := by
  induction left generalizing k with
  | zero => rw [forward, stopFrom_of_le (by omega)]
  | succ left ih =>
    have hlt : k < xs.length := by omega
    rw [forward, hr.look k hlt, stopFrom_of_lt hlt]
    simp only [bind, Except.bind, pure, Except.pure]
    by_cases hs : (xs[k].isEot || xs[k].isLineBreak) = true
    · rw [if_pos hs, if_pos hs]
    · rw [if_neg hs, if_neg hs, ih (by omega)]

theorem lineBoundsCounted_eq {i : Nat} (hi : i < xs.length) : r.lineBoundsCounted i =
    .ok (((Caret.lineStart xs i : Int), (lineStop xs i : Int)), i - anchor xs i) := by
  have hanchor : anchor xs i < xs.length := Nat.lt_of_le_of_lt (anchor_le xs i) hi
  rw [lineBoundsCounted, hr.check_eq, indexIn_natCast hi]
  simp only [bind, Except.bind, pure, Except.pure]
  rw [hr.onLineCounted_eq _ hi, hr.lineStart_eq hanchor]
  dsimp only
  rw [hr.forward_eq (by rw [hr.length]; omega)]
  rfl

theorem lineBounds_eq {i : Nat} (hi : i < xs.length) :
    r.lineBounds i = .ok ((Caret.lineStart xs i : Int), (lineStop xs i : Int)) := by
  rw [← map_lineBoundsCounted, hr.lineBoundsCounted_eq hi]
  rfl

/-! ### Numbers of lines -/

/-- No line is counted at the last element, so a return that is counted has an element behind it. -/
theorem endsLine_eq {i : Nat} (hi : i + 1 < xs.length) : r.endsLine i = .ok (endsAt xs i) := by
  have hlt : i < xs.length := Nat.lt_of_succ_lt hi
  have hahead : ¬ r.length ≤ i + 1 := by
    rw [hr.length]
    omega
  have hnext : (xs.drop (i + 1)).head? = some xs[i + 1] := by
    rw [List.head?_drop, List.getElem?_eq_getElem hi]
  rw [endsLine, hr.look i hlt, hr.look (i + 1) hi, endsAt_eq hlt, Caret.endsLine, hnext]
  simp only [bind, Except.bind, pure, Except.pure, if_neg hahead]
  cases xs[i].isLineFeed with
  | true => rfl
  | false => cases xs[i].isReturn <;> rfl

theorem linesEnded_eq {n : Nat} (hn : n < xs.length) :
    r.linesEnded n = .ok (Caret.linesEnded n xs) := by
  induction n with
  | zero => cases xs <;> rfl
  | succ n ih =>
    rw [linesEnded, ih (Nat.lt_of_succ_lt hn), hr.endsLine_eq hn, linesEnded_succ]
    rfl

theorem lineNumber_eq {i : Nat} (hi : i < xs.length) :
    r.lineNumber i = .ok (Caret.lineNumber xs i) := by
  have hanchor : anchor xs i < xs.length := Nat.lt_of_le_of_lt (anchor_le xs i) hi
  have hstart : Caret.lineStart xs i < xs.length := Nat.lt_of_le_of_lt (lineStart_le xs i) hi
  rw [lineNumber, hr.check_eq, indexIn_natCast hi]
  simp only [bind, Except.bind, pure, Except.pure]
  rw [hr.onLine_eq _ hi, hr.lineStart_eq hanchor]
  dsimp only
  rw [Int.toNat_natCast]
  have hended := hr.linesEnded_eq hstart
  rw [Caret.lineStart] at hended
  rw [hended]
  rfl

theorem gutter_eq (style : PointerStyle) {i : Nat} (hi : i < xs.length) :
    r.gutter style i = .ok (style.gutter (Caret.lineNumber xs i)) := by
  rw [gutter, PointerStyle.gutter, hr.lineNumber_eq hi]
  cases style.lineNumbers.truthy <;> rfl

end Reader.Shows

/-! ### Sequences of every kind -/

namespace Sequence

theorem reader_shows (s : Sequence) : s.reader.Shows s.elements where
  length := rfl
  look := by
    intro i hi
    cases s with
    | text t =>
      have hlt : i < t.length := by simpa [elements] using hi
      show (itemAt (Caret.text "string") t i).map Value.ofCodePoint = _
      rw [itemAt_natCast _ t i hlt]
      simp only [elements, List.getElem_map]
      rfl
    | list xs => exact itemAt_natCast _ xs i hi
    | tuple xs => exact itemAt_natCast _ xs i hi
    | source t => exact t.refinesTuple.get_front i hi
    | window w => exact w.get_natCast hi

theorem slice_operand (s : Sequence) (a b : Nat) :
    s.operand.slice (.between (some a) (some b)) = (s.between a b).map operand := by
  cases s with
  | text t =>
    rw [operand, Operand.slice, Slice.select_between]
    rfl
  | list xs =>
    rw [operand, Operand.slice, Slice.select_between]
    rfl
  | tuple xs =>
    rw [operand, Operand.slice, Slice.select_between]
    rfl
  | source t =>
    rw [operand, Operand.slice, between]
    cases t.slice (.between (some a) (some b)) <;> rfl
  | window w =>
    rw [operand, Operand.slice, between]
    cases w.slice (.between (some a) (some b)) <;> rfl

theorem list_operand (s : Sequence) : s.operand.list = .ok s.elements := by
  cases s with
  | source t => exact Operand.list_source t
  | window w => exact Operand.list_window w
  | text t => rfl
  | list xs => rfl
  | tuple xs => rfl

theorem length_operand (s : Sequence) : s.operand.length = .ok s.elements.length := by
  cases s with
  | window w => exact congrArg Except.ok w.length_toList.symm
  | _ => rfl

end Sequence

/-! ### Displays -/

section Displays

variable {r : Reader} {s : Sequence} (hr : r.Shows s.elements)
include hr

theorem Reader.Shows.pointAt_eq_withHeadline {i : Nat} (hi : i < s.elements.length)
    {style : PointerStyle} {p : CodePoint} (hp : checkMark style.mark = .ok p) (headline : Value) :
    r.pointAt s i headline style = withHeadline headline
      (style.row s.elements i ++ text "\n" ++ style.pointer p s.elements i) := by
  obtain ⟨line, hline, helements⟩ :=
    s.between_eq_ok (lineStart_le_lineStop s.elements i) (lineStop_le_length hi)
  have hcut := s.slice_operand (Caret.lineStart s.elements i) (lineStop s.elements i)
  have hpos := displayColumn_pos s.elements i
  have hwidth : ((style.gutter (Caret.lineNumber s.elements i)).length : Int) +
        Caret.displayColumn s.elements i - 1 =
      ((style.gutter (Caret.lineNumber s.elements i)).length +
        Caret.displayColumn s.elements i - 1 : Nat) := by
    omega
  have hpad := copies_natCast (CodePoint.ofChar ' ')
    ((style.gutter (Caret.lineNumber s.elements i)).length +
      Caret.displayColumn s.elements i - 1)
  rw [hline] at hcut
  rw [Reader.pointAt, hp, hr.displayColumn_eq hi, hr.lineBounds_eq hi, hr.gutter_eq style hi]
  simp only [bind, Except.bind, Except.map] at hcut ⊢
  rw [hcut]
  dsimp only
  rw [line.list_operand, helements, hwidth, show text " " = [CodePoint.ofChar ' '] from rfl,
    hpad]
  dsimp only
  rw [PointerStyle.row, PointerStyle.pointer]
  simp only [List.append_assoc]

/-- **A display made look by look is the display**, whatever its parts are. -/
theorem Reader.Shows.pointAt_eq (index : Int) (headline : Value) (style : PointerStyle) :
    r.pointAt s index headline style = Caret.pointAt s index headline style := by
  cases hmark : checkMark style.mark with
  | error f =>
    rw [Reader.pointAt, Caret.pointAt, hmark]
    rfl
  | ok p =>
    by_cases hinside : Inside s.elements index
    · obtain ⟨i, rfl, hi⟩ := hinside.exists_nat
      rw [hr.pointAt_eq_withHeadline hi hmark, Caret.pointAt_eq_withHeadline hi hmark]
    · rw [Reader.pointAt, Caret.pointAt, Reader.displayColumn, hmark, hr.check_eq,
        indexIn_of_not_inside hinside]
      rfl

end Displays

section Shown

variable {s : Sequence} {index : Int} {headline : Value}
  (hheadline : (∃ t, headline = .text t) ∨ headline.truthy = false) {style : PointerStyle}
include hheadline

/-- A headline that can be shown is at no fault. -/
theorem pointAt_eq_error_iff_of_shown {f : Fault} :
    pointAt s index headline style = .error f ↔
      ¬ VisibleMark style.mark ∧ f = .badPointer style.mark ∨
      VisibleMark style.mark ∧ ¬ Inside s.elements index ∧
        f = .outside index s.elements.length := by
  have hshown : ¬ (headline.truthy = true ∧ ∀ t, headline ≠ .text t) := by
    rintro ⟨htrue, hnone⟩
    rcases hheadline with ⟨t, ht⟩ | hfalse
    · exact hnone t ht
    · rw [htrue] at hfalse
      cases hfalse
  rw [pointAt_eq_error_iff]
  tauto

theorem exists_pointAt_iff_of_shown :
    (∃ display, pointAt s index headline style = .ok display) ↔
      VisibleMark style.mark ∧ Inside s.elements index := by
  constructor
  · rintro ⟨display, hdisplay⟩
    have hnot : ∀ f, pointAt s index headline style ≠ .error f := by
      intro f hf
      rw [hdisplay] at hf
      cases hf
    by_cases hmark : VisibleMark style.mark
    · refine ⟨hmark, ?_⟩
      by_contra hinside
      exact hnot _ ((pointAt_eq_error_iff_of_shown hheadline).mpr (.inr ⟨hmark, hinside, rfl⟩))
    · exact absurd ((pointAt_eq_error_iff_of_shown hheadline).mpr (.inl ⟨hmark, rfl⟩)) (hnot _)
  · rintro ⟨hmark, hinside⟩
    cases hresult : pointAt s index headline style with
    | ok display => exact ⟨display, rfl⟩
    | error f =>
      rcases (pointAt_eq_error_iff_of_shown hheadline).mp hresult with
        ⟨hbad, -⟩ | ⟨-, houtside, -⟩
      · exact absurd hmark hbad
      · exact absurd hinside houtside

end Shown

/-- **The faults of a display under a headline that can be shown.** A mark that takes no visible
column is refused, whatever the index is; then an index outside the sequence is refused; and else
there is a display. Nothing that a scan meets on the way is refused: a reader that has the elements
in sight makes the same display, whatever its looks outside give and whatever a return counts for
at the end of the sequence. -/
theorem pointAt_refuses_mark_then_index (s : Sequence) (index : Int) {headline : Value}
    (hheadline : (∃ t, headline = .text t) ∨ headline.truthy = false) (style : PointerStyle) :
    (pointAt s index headline style = .error (.badPointer style.mark) ↔
      ¬ VisibleMark style.mark) ∧
    (pointAt s index headline style = .error (.outside index s.elements.length) ↔
      VisibleMark style.mark ∧ ¬ Inside s.elements index) ∧
    ((∃ display, pointAt s index headline style = .ok display) ↔
      VisibleMark style.mark ∧ Inside s.elements index) ∧
    ((Fault.badPointer style.mark).kind = .value ∧ (Fault.badPointer style.mark).message =
        text "Diagnostic pointer must be one visible ASCII character, got " ++ style.mark.quoted ∧
      (Fault.outside index s.elements.length).kind = .index ∧
      (Fault.outside index s.elements.length).message = text "index " ++ Text.ofInt index ++
        text " out of range for sequence of length " ++ Text.ofNat s.elements.length) ∧
    s.reader.Shows s.elements ∧
    ∀ r : Reader, r.Shows s.elements →
      r.pointAt s index headline style = pointAt s index headline style := by
  refine ⟨pointAt_eq_badPointer_iff, ?_, exists_pointAt_iff_of_shown hheadline, ⟨rfl, rfl, rfl, rfl⟩,
    s.reader_shows, fun r hr => hr.pointAt_eq index headline style⟩
  rw [pointAt_eq_error_iff_of_shown hheadline]
  simp

/-- A reader that refuses whatever is outside, and a return before the end of the sequence. -/
theorem pointAt_refuses_mark_then_index_strict :
    let s := Sequence.list [.int 7, .text (text "\r"), .text (text "\n"), .text (text "\r")]
    let r : Reader := ⟨4, fun i => if 0 ≤ i then s.operand.get i else .error (.windowIndex i),
      .error .unmarkedEnd⟩
    let wide : PointerStyle := ⟨.text (text "^^"), .bool true⟩
    Value.null.truthy = false ∧ r.Shows s.elements ∧
      r.pointAt s 3 .null PointerStyle.standard = pointAt s 3 .null PointerStyle.standard ∧
      (∃ display, pointAt s 3 .null PointerStyle.standard = .ok display) ∧
      pointAt s 4 .null PointerStyle.standard = .error (.outside 4 4) ∧
      pointAt s (-1) .null wide = .error (.badPointer wide.mark) := by
  intro s r wide
  have hnull : Value.null.truthy = false := rfl
  have hr : r.Shows s.elements := by
    refine ⟨rfl, fun i hi => ?_⟩
    show (if 0 ≤ (i : Int) then s.operand.get i else .error (.windowIndex i)) = .ok s.elements[i]
    rw [if_pos (Int.natCast_nonneg i)]
    exact s.reader_shows.look i hi
  obtain ⟨-, -, hmade, -, -, hscan⟩ :=
    pointAt_refuses_mark_then_index s 3 (.inr hnull) PointerStyle.standard
  obtain ⟨-, houtside, -⟩ := pointAt_refuses_mark_then_index s 4 (.inr hnull) PointerStyle.standard
  obtain ⟨hmark, -⟩ := pointAt_refuses_mark_then_index s (-1) (.inr hnull) wide
  exact ⟨hnull, hr, hscan r hr, hmade.mpr ⟨by decide, by decide⟩,
    houtside.mpr ⟨by decide, by decide⟩, hmark.mpr (by decide)⟩

end Caret

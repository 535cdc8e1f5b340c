import Caret.Proofs.LineSteps

/-!
# Lines in windows

What a window says about lines, against what its list says about the same element. A window may begin
or stop inside a line, or between a return and its line feed. Cutting at the end hides what follows,
which only the end of the last line depends on; cutting at the front moves the start of the first
line to the start of the window. Main statement: numbers are counted from the line at the start of
the window, columns of its first line from that start, and bounds are moved into the window.
-/

namespace Caret

/-! ### Cutting the end -/

theorem isPairTail_take {xs : List Value} {b i : Nat} (h : i < b) :
    isPairTail (xs.take b) i = isPairTail xs i := by
  cases i with
  | zero => rfl
  | succ i =>
    rw [isPairTail, isPairTail, List.getElem?_take_of_lt h, List.getElem?_take_of_lt (by omega)]

theorem anchor_take {xs : List Value} {b i : Nat} (h : i < b) :
    anchor (xs.take b) i = anchor xs i := by
  rw [anchor, anchor, isPairTail_take h]

theorem lineStart_take {xs : List Value} {b i : Nat} (hi : i < b) (hb : b ≤ xs.length) :
    lineStart (xs.take b) i = lineStart xs i := by
  induction i with
  | zero => simp
  | succ i ih =>
    have hlen : (xs.take b).length = b := List.length_take_of_le hb
    rw [lineStart_succ (by omega), lineStart_succ (by omega), endsAt_take hi, ih (by omega)]

theorem lineNumber_take {xs : List Value} {b i : Nat} (hi : i < b) (hb : b ≤ xs.length) :
    lineNumber (xs.take b) i = lineNumber xs i := by
  induction i with
  | zero => simp
  | succ i ih =>
    have hlen : (xs.take b).length = b := List.length_take_of_le hb
    rw [lineNumber_succ (by omega), lineNumber_succ (by omega), endsAt_take hi, ih (by omega)]

/-! ### Cutting the front -/

theorem isPairTail_drop_succ (xs : List Value) (a i : Nat) :
    isPairTail (xs.drop a) (i + 1) = isPairTail xs (a + (i + 1)) := by
  rw [← Nat.add_assoc, isPairTail, isPairTail, List.getElem?_drop, List.getElem?_drop]
  rfl

/-- The first line of what is left begins where the cut is, all others where they did. -/
theorem lineStart_drop {xs : List Value} {a i : Nat} (h : a + i ≤ xs.length) :
    lineStart (xs.drop a) i + a = max a (lineStart xs (a + i)) := by
  induction i with
  | zero =>
    have hle := lineStart_le xs a
    rw [lineStart_zero, Nat.add_zero]
    omega
  | succ i ih =>
    have ih := ih (by omega)
    have hlen : (xs.drop a).length = xs.length - a := List.length_drop
    rw [← Nat.add_assoc, lineStart_succ (by omega), lineStart_succ (by omega), endsAt_drop]
    by_cases he : endsAt xs (a + i) = true
    · rw [if_pos he, if_pos he]
      omega
    · rw [if_neg he, if_neg he]
      exact ih

/-- The line at the cut becomes the first. -/
theorem lineNumber_drop {xs : List Value} {a i : Nat} (h : a + i ≤ xs.length) :
    lineNumber (xs.drop a) i + lineNumber xs a = lineNumber xs (a + i) + 1 := by
  induction i with
  | zero =>
    show lineNumber (xs.drop a) 0 + lineNumber xs a = lineNumber xs a + 1
    rw [lineNumber_zero, Nat.add_comm]
  | succ i ih =>
    have ih := ih (by omega)
    have hlen : (xs.drop a).length = xs.length - a := List.length_drop
    rw [← Nat.add_assoc, lineNumber_succ (by omega), lineNumber_succ (by omega), endsAt_drop]
    omega

/-! ### Ends of lines -/

theorem stopFrom_take {xs : List Value} {b k : Nat} (h : k ≤ b) :
    stopFrom (xs.take b) k = min b (stopFrom xs k) := by
  rw [stopFrom, stopFrom, List.drop_take, ← List.take_takeWhile, List.length_take]
  omega

theorem stopFrom_drop (xs : List Value) (a k : Nat) :
    stopFrom (xs.drop a) k + a = stopFrom xs (a + k) := by
  rw [stopFrom, stopFrom, List.drop_drop]
  omega

theorem lineStop_take {xs : List Value} {b i : Nat} (h : i < b) :
    lineStop (xs.take b) i = min b (lineStop xs i) := by
  have hle := anchor_le xs i
  rw [lineStop_eq, lineStop_eq, anchor_take h, stopFrom_take (by omega)]

theorem lineStop_drop_succ (xs : List Value) (a i : Nat) :
    lineStop (xs.drop a) (i + 1) + a = lineStop xs (a + (i + 1)) := by
  have hpair := isPairTail_drop_succ xs a i
  cases ht : isPairTail xs (a + (i + 1)) with
  | true =>
    rw [lineStop_of_isPairTail ht, lineStop_of_isPairTail (hpair.trans ht)]
    omega
  | false =>
    rw [lineStop_of_not_isPairTail ht, lineStop_of_not_isPairTail (hpair.trans ht), stopFrom_drop]

/-- A cut between a return and its line feed leaves a line feed that ends an empty line. -/
theorem lineStop_drop_zero (xs : List Value) (a : Nat) :
    lineStop (xs.drop a) 0 + a = max a (lineStop xs a) := by
  rw [lineStop_of_not_isPairTail rfl, stopFrom_drop, Nat.add_zero]
  cases ht : isPairTail xs a with
  | true =>
    rw [lineStop_of_isPairTail ht, stopFrom_of_isLineBreak (isLineBreak_of_isPairTail ht).1]
    omega
  | false =>
    rw [lineStop_of_not_isPairTail ht, stopFrom]
    omega

theorem lineStop_drop (xs : List Value) (a i : Nat) :
    lineStop (xs.drop a) i + a = max a (lineStop xs (a + i)) := by
  cases i with
  | zero => exact lineStop_drop_zero xs a
  | succ i =>
    have h := lineStop_drop_succ xs a i
    omega

/-! ### An element in front -/

theorem lineNumber_cons (v : Value) {xs : List Value} {i : Nat} (h : i ≤ xs.length) :
    lineNumber (v :: xs) (i + 1) = lineNumber xs i + if endsLine v xs then 1 else 0 := by
  have hdrop := @lineNumber_drop (v :: xs) 1 i (by rw [List.length_cons]; omega)
  have hone := @lineNumber_succ (v :: xs) 0 (by simp)
  rw [Nat.zero_add, lineNumber_zero, endsAt_cons_zero] at hone
  rw [List.drop_succ_cons, List.drop_zero, Nat.add_comm 1 i] at hdrop
  omega

theorem lineNumber_cons_last (v : Value) {xs : List Value} (h : 0 < xs.length) :
    lineNumber (v :: xs) ((v :: xs).length - 1) =
      lineNumber xs (xs.length - 1) + if endsLine v xs then 1 else 0 := by
  have hlast : (v :: xs).length - 1 = xs.length - 1 + 1 := by
    rw [List.length_cons]
    omega
  rw [hlast, lineNumber_cons v (Nat.sub_le ..)]

/-- The first line begins with the new element, and all others are one place behind. -/
theorem lineStart_cons (v : Value) {xs : List Value} {i : Nat} (h : i ≤ xs.length) :
    lineStart (v :: xs) (i + 1) =
      if lineNumber (v :: xs) (i + 1) = 1 then 0 else lineStart xs i + 1 := by
  have hlen : i + 1 ≤ (v :: xs).length := by
    rw [List.length_cons]
    omega
  have hdrop := @lineStart_drop (v :: xs) 1 i (by omega)
  rw [List.drop_succ_cons, List.drop_zero, Nat.add_comm 1 i] at hdrop
  rcases same_line_or_later (Nat.zero_le (i + 1)) hlen with ⟨hnumber, hstart⟩ | ⟨hnumber, hstart⟩
  · rw [lineNumber_zero] at hnumber
    rw [if_pos hnumber, hstart, lineStart_zero]
  · rw [lineNumber_zero] at hnumber
    rw [if_neg (by omega)]
    omega

theorem lineStop_cons_zero (v : Value) (xs : List Value) :
    lineStop (v :: xs) 0 = if v.isEot || v.isLineBreak then 0 else lineStop xs 0 + 1 := by
  rw [lineStop_of_not_isPairTail rfl, lineStop_of_not_isPairTail rfl, stopFrom, stopFrom,
    List.drop_zero, List.drop_zero, List.takeWhile_cons]
  cases he : v.isEot <;> cases hb : v.isLineBreak <;> simp

/-- Only the element right behind the new one can become the tail of a pair. -/
theorem lineStop_cons_succ (v : Value) {xs : List Value} {i : Nat}
    (h : i = 0 → isPairTail (v :: xs) 1 = false) :
    lineStop (v :: xs) (i + 1) = lineStop xs i + 1 := by
  cases i with
  | zero =>
    rw [lineStop_of_not_isPairTail (h rfl), lineStop_of_not_isPairTail rfl]
    exact (stopFrom_drop (v :: xs) 1 0).symm
  | succ i =>
    have hdrop := lineStop_drop_succ (v :: xs) 1 i
    rw [List.drop_succ_cons, List.drop_zero, Nat.add_comm 1] at hdrop
    exact hdrop.symm

/-! ### Windows -/

/-- An offset, moved between two bounds. -/
def clamp (a b offset : Nat) : Nat := min (max offset a) b

section Sight

variable (w : Window) {i : Nat} (hi : i < w.length)
include hi

theorem Window.start_add_lt : w.start + i < w.stop := by
  unfold Window.length at hi
  omega

theorem Window.lineNumber_toList : (lineNumber w.toList i : Int) =
    lineNumber w.items (w.start + i) - lineNumber w.items w.start + 1 := by
  have hlt := w.start_add_lt hi
  have hlen : (w.items.take w.stop).length = w.stop := List.length_take_of_le w.stop_le_length
  have hdrop := @lineNumber_drop (w.items.take w.stop) w.start i (by omega)
  rw [lineNumber_take hlt w.stop_le_length, lineNumber_take (by omega) w.stop_le_length] at hdrop
  rw [Window.toList]
  omega

theorem Window.lineStart_toList : (lineStart w.toList i : Int) =
    clamp w.start w.stop (lineStart w.items (w.start + i)) - w.start := by
  have hlt := w.start_add_lt hi
  have hle := lineStart_le w.items (w.start + i)
  have hlen : (w.items.take w.stop).length = w.stop := List.length_take_of_le w.stop_le_length
  have hdrop := @lineStart_drop (w.items.take w.stop) w.start i (by omega)
  rw [lineStart_take hlt w.stop_le_length] at hdrop
  rw [Window.toList, clamp]
  omega

theorem Window.lineStop_toList : (lineStop w.toList i : Int) =
    clamp w.start w.stop (lineStop w.items (w.start + i)) - w.start := by
  have hlt := w.start_add_lt hi
  have hdrop := lineStop_drop (w.items.take w.stop) w.start i
  rw [lineStop_take hlt] at hdrop
  rw [Window.toList, clamp]
  omega

theorem Window.displayColumn_toList : (displayColumn w.toList i : Int) =
    if lineNumber w.items (w.start + i) = lineNumber w.items w.start then
      (displayColumn w.items (w.start + i) : Int) - displayColumn w.items w.start + 1
    else displayColumn w.items (w.start + i) := by
  have hlt := w.start_add_lt hi
  have hlen := w.stop_le_length
  have hview := displayColumn_add_lineStart w.toList i
  have hitem := displayColumn_add_lineStart w.items (w.start + i)
  have hfirst := displayColumn_add_lineStart w.items w.start
  have hstart := w.lineStart_toList hi
  have hle := lineStart_le w.items w.start
  unfold clamp at hstart
  rcases @same_line_or_later w.items _ _ (Nat.le_add_right w.start i) (by omega) with
    ⟨hnumber, hsame⟩ | ⟨hnumber, hbehind⟩
  · rw [if_pos hnumber]
    omega
  · rw [if_neg (Nat.ne_of_gt hnumber)]
    omega

end Sight

/-- **A window counts lines and columns from where it begins.** Its first line is the one that its
list has there, however much of it is in sight, and the bounds of every line are moved into it. -/
theorem lines_of_window {items : List Value} {a b : Nat} (hab : a ≤ b) (hb : b ≤ items.length) :
    ∃ view, Window.ofBounds items a b = .ok view ∧ ∀ i : Nat, i < b - a →
      Query.lineNumber.answer view.toList i =
        .ok (.int (lineNumber items (a + i) - lineNumber items a + 1)) ∧
      Query.displayColumn.answer view.toList i =
        .ok (.int (if lineNumber items (a + i) = lineNumber items a then
          displayColumn items (a + i) - displayColumn items a + 1
        else displayColumn items (a + i))) ∧
      Query.lineBounds.answer view.toList i =
        .ok (.tuple [.int (clamp a b (lineStart items (a + i)) - a),
          .int (clamp a b (lineStop items (a + i)) - a)]) := by
  refine ⟨⟨items, a, b, hab, hb⟩, Window.ofBounds_natCast hab hb, fun i hi => ?_⟩
  have hlt : i < (Window.toList ⟨items, a, b, hab, hb⟩).length := by
    rw [Window.length_toList]
    exact hi
  refine ⟨?_, ?_, ?_⟩
  · rw [Query.answer_lineNumber hlt, Window.lineNumber_toList ⟨items, a, b, hab, hb⟩ hi]
  · rw [Query.answer_displayColumn hlt, Window.displayColumn_toList ⟨items, a, b, hab, hb⟩ hi]
  · rw [Query.answer_lineBounds hlt, Window.lineStart_toList ⟨items, a, b, hab, hb⟩ hi,
      Window.lineStop_toList ⟨items, a, b, hab, hb⟩ hi]

/-- A window from the line feed of one pair to the return of the next. -/
theorem lines_of_window_inside_pairs :
    let items := (text "a\r\nb\r\nc").map Value.ofCodePoint
    ∃ view, Window.ofBounds items 2 5 = .ok view ∧
      Query.lineNumber.answer view.toList 1 = .ok (.int 2) ∧
      Query.displayColumn.answer view.toList 0 = .ok (.int 1) ∧
      Query.lineBounds.answer view.toList 2 = .ok (.tuple [.int 1, .int 2]) := by
  intro items
  obtain ⟨view, hview, h⟩ := @lines_of_window items 2 5 (by decide) (by decide)
  obtain ⟨hnumber, -, -⟩ := h 1 (by decide)
  obtain ⟨-, hcolumn, -⟩ := h 0 (by decide)
  obtain ⟨-, -, hbounds⟩ := h 2 (by decide)
  refine ⟨view, hview, hnumber.trans ?_, hcolumn.trans ?_, hbounds.trans ?_⟩
  · exact congrArg (fun n => Except.ok (Value.int n)) (by decide)
  · exact congrArg (fun n => Except.ok (Value.int n)) (by decide)
  · exact congrArg₂ (fun m n => Except.ok (Value.tuple [.int m, .int n])) (by decide) (by decide)

end Caret

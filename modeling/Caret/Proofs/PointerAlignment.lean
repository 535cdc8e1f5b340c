import Caret.Pointer
import Caret.Proofs.LineSteps

/-!
# Pointers stand under their elements

A display has two rows, the line after its gutter and the pointer, under a headline that may hold
breaks of its own. Masking leaves one printable character for each element, and the pad of the pointer
is as wide as the gutter and what stands before the element. Main statement: the mark stands under the
element, or behind the line by one place for a break or the marker and by two for the line feed of a
pair.
-/

namespace Caret

/-! ### Parts of a display -/

theorem CodePoint.isPrint_of_isBetween {p : CodePoint} (hp : p.isBetween '!' '~' = true) :
    p.isPrint = true := by
  simp only [CodePoint.isBetween, Bool.and_eq_true, decide_eq_true_eq] at hp
  exact CodePoint.isPrint_iff.mpr ⟨Nat.le_of_succ_le hp.1, hp.2⟩

theorem checkMark_of_isBetween {p : CodePoint} (hp : p.isBetween '!' '~' = true) :
    checkMark (.text [p]) = .ok p := by
  have hprint := CodePoint.isPrint_of_isBetween hp
  have hne : (p != CodePoint.ofChar ' ') = true := by
    rw [bne_iff_ne]
    rintro rfl
    exact absurd hp (by decide)
  simp [checkMark, Value.char?, hprint, hne]

/-- The headline with the break behind it, if there is one. -/
def headed (message : Text) : Text := if message = [] then [] else message ++ text "\n"

theorem withHeadline_text (message display : Text) :
    withHeadline (.text message) display = .ok (headed message ++ display) := by
  cases message with
  | nil => rfl
  | cons c cs =>
    rw [withHeadline, headed, if_neg (List.cons_ne_nil c cs)]
    nofun

/-- The row of the line of an index, after its gutter. -/
def PointerStyle.row (style : PointerStyle) (xs : List Value) (i : Nat) : Text :=
  style.gutter (lineNumber xs i) ++ mask ((xs.take (lineStop xs i)).drop (lineStart xs i))

/-- The row of the pointer to an index. -/
def PointerStyle.pointer (style : PointerStyle) (p : CodePoint) (xs : List Value) (i : Nat) : Text :=
  List.replicate ((style.gutter (lineNumber xs i)).length + displayColumn xs i - 1)
    (CodePoint.ofChar ' ') ++ [p]

theorem displayColumn_pos (xs : List Value) (i : Nat) : 0 < displayColumn xs i := by
  have hcol := displayColumn_add_lineStart xs i
  have hle := lineStart_le xs i
  omega

/-- A display is made of its two rows, whatever stands above them, for every kind of sequence. -/
theorem pointAt_eq_withHeadline {s : Sequence} {i : Nat} (hi : i < s.elements.length)
    {style : PointerStyle} {p : CodePoint} (hp : checkMark style.mark = .ok p) (headline : Value) :
    pointAt s i headline style = withHeadline headline
      (style.row s.elements i ++ text "\n" ++ style.pointer p s.elements i) := by
  obtain ⟨line, hline, helements⟩ :=
    s.between_eq_ok (lineStart_le_lineStop s.elements i) (lineStop_le_length hi)
  have hpos := displayColumn_pos s.elements i
  have hwidth : ((style.gutter (lineNumber s.elements i)).length : Int) +
        displayColumn s.elements i - 1 =
      ((style.gutter (lineNumber s.elements i)).length + displayColumn s.elements i - 1 : Nat) := by
    omega
  have hpad := copies_natCast (CodePoint.ofChar ' ')
    ((style.gutter (lineNumber s.elements i)).length + displayColumn s.elements i - 1)
  rw [pointAt, hp, indexIn_natCast hi]
  simp only [bind, Except.bind, hline, hwidth]
  rw [show text " " = [CodePoint.ofChar ' '] from rfl, hpad]
  simp only [helements]
  rw [PointerStyle.row, PointerStyle.pointer]
  simp only [List.append_assoc]

/-- **A display is made of its headline and its two rows**, for every kind of sequence. -/
theorem pointAt_eq {s : Sequence} {i : Nat} (hi : i < s.elements.length) {style : PointerStyle}
    {p : CodePoint} (hp : checkMark style.mark = .ok p) (message : Text) :
    pointAt s i (.text message) style = .ok (headed message ++
      (style.row s.elements i ++ text "\n" ++ style.pointer p s.elements i)) := by
  rw [pointAt_eq_withHeadline hi hp, withHeadline_text]

/-! ### Rows -/

section Rows

variable (style : PointerStyle) (xs : List Value) (i : Nat)

theorem PointerStyle.isPrint_of_mem_gutter {n : Nat} {c : CodePoint} (h : c ∈ style.gutter n) :
    c.isPrint = true := by
  unfold PointerStyle.gutter at h
  split at h
  · rcases List.mem_append.mp h with h | h
    · exact Text.isPrint_of_mem_ofNat h
    · obtain rfl | rfl : c = CodePoint.ofChar ':' ∨ c = CodePoint.ofChar ' ' := by
        simpa [text] using h
      · rfl
      · rfl
  · simp at h

theorem PointerStyle.isPrint_of_mem_row {c : CodePoint} (h : c ∈ style.row xs i) :
    c.isPrint = true := by
  rcases List.mem_append.mp h with h | h
  · exact style.isPrint_of_mem_gutter h
  · exact isPrint_of_mem_mask h

theorem PointerStyle.isPrint_of_mem_pointer {p c : CodePoint} (hp : p.isPrint = true)
    (h : c ∈ style.pointer p xs i) : c.isPrint = true := by
  rcases List.mem_append.mp h with h | h
  · obtain rfl := List.eq_of_mem_replicate h
    rfl
  · obtain rfl := List.mem_singleton.mp h
    exact hp

theorem PointerStyle.length_pointer (p : CodePoint) : (style.pointer p xs i).length =
    (style.gutter (lineNumber xs i)).length + displayColumn xs i := by
  have hpos := displayColumn_pos xs i
  rw [PointerStyle.pointer, List.length_append, List.length_replicate, List.length_singleton]
  omega

variable {xs i} (hi : i < xs.length)
include hi

theorem length_line : ((xs.take (lineStop xs i)).drop (lineStart xs i)).length =
    lineStop xs i - lineStart xs i := by
  rw [List.length_drop, List.length_take_of_le (lineStop_le_length hi)]

theorem PointerStyle.length_row : (style.row xs i).length =
    (style.gutter (lineNumber xs i)).length + (lineStop xs i - lineStart xs i) := by
  rw [PointerStyle.row, List.length_append, length_mask, length_line hi]

/-- **The mark stands under its element**, where the element is inside the line. -/
theorem PointerStyle.row_over_mark (p : CodePoint) (hstop : i < lineStop xs i) :
    (style.row xs i)[(style.pointer p xs i).length - 1]? = some xs[i].mask := by
  have hcol := displayColumn_add_lineStart xs i
  have hle := lineStart_le xs i
  have hplace : (style.pointer p xs i).length - 1 =
      (style.gutter (lineNumber xs i)).length + (i - lineStart xs i) := by
    rw [style.length_pointer xs i p]
    omega
  have hback : lineStart xs i + (i - lineStart xs i) = i := by omega
  rw [hplace, PointerStyle.row, List.getElem?_append_right (Nat.le_add_right ..),
    Nat.add_sub_cancel_left, mask, List.getElem?_map, List.getElem?_drop, hback,
    List.getElem?_take_of_lt hstop, List.getElem?_eq_getElem hi, Option.map_some]

/-- Behind the line the mark is one place further for each element from the end of the line on. -/
theorem PointerStyle.length_pointer_of_le (p : CodePoint) (hstop : lineStop xs i ≤ i) :
    (style.pointer p xs i).length =
      (style.row xs i).length + if isPairTail xs i then 2 else 1 := by
  have hcol := displayColumn_add_lineStart xs i
  have hle := lineStart_le_lineStop xs i
  have hend := lineStop_of_le hstop
  rw [style.length_pointer xs i p, style.length_row hi]
  cases ht : isPairTail xs i with
  | true =>
    rw [ht, if_pos rfl] at hend
    rw [if_pos rfl]
    omega
  | false =>
    rw [ht, if_neg Bool.false_ne_true] at hend
    rw [if_neg Bool.false_ne_true]
    omega

end Rows

/-! ### Alignment -/

/-- What the two rows of a display of an index are, and how the pointer row, which ends in the mark,
points at the element. -/
structure Aligned (xs : List Value) (i : Nat) (gutter : Text) (p : CodePoint)
    (row pointer : Text) : Prop where
  row_eq : ∃ shown, row = gutter ++ shown ∧ shown.length = lineStop xs i - lineStart xs i ∧
    ∀ c ∈ shown, c.isPrint = true
  pointer_eq : ∃ n, pointer = List.replicate n (CodePoint.ofChar ' ') ++ [p]
  unbroken : ∀ c ∈ row ++ pointer, c.isLineBreak = false
  under_character : ∀ c, i < lineStop xs i → xs[i]? = some (.ofCodePoint c) →
    c.isPrint = true → row[pointer.length - 1]? = some c
  under_other : ∀ v, i < lineStop xs i → xs[i]? = some v → v.isPrint = false →
    row[pointer.length - 1]? = some (CodePoint.ofChar '.')
  behind_pair : lineStop xs i ≤ i → 0 < i →
    xs[i - 1]? = some (.ofCodePoint (CodePoint.ofChar '\r')) →
    xs[i]? = some (.ofCodePoint (CodePoint.ofChar '\n')) → pointer.length = row.length + 2
  behind_other : lineStop xs i ≤ i →
    ¬ (0 < i ∧ xs[i - 1]? = some (.ofCodePoint (CodePoint.ofChar '\r')) ∧
      xs[i]? = some (.ofCodePoint (CodePoint.ofChar '\n'))) → pointer.length = row.length + 1

theorem aligned_rows {xs : List Value} {i : Nat} (hi : i < xs.length) (style : PointerStyle)
    {p : CodePoint} (hp : p.isPrint = true) :
    Aligned xs i (style.gutter (lineNumber xs i)) p (style.row xs i) (style.pointer p xs i) where
  row_eq := ⟨_, rfl, (length_mask _).trans (length_line hi), fun _ hc => isPrint_of_mem_mask hc⟩
  pointer_eq := ⟨_, rfl⟩
  unbroken := by
    intro c hc
    rcases List.mem_append.mp hc with hc | hc
    · exact CodePoint.isLineBreak_of_isPrint (style.isPrint_of_mem_row xs i hc)
    · exact CodePoint.isLineBreak_of_isPrint (style.isPrint_of_mem_pointer xs i hp hc)
  under_character := by
    intro c hstop hc hprint
    rw [List.getElem?_eq_getElem hi] at hc
    rw [style.row_over_mark hi p hstop, Option.some.inj hc, Value.mask_ofCodePoint hprint]
  under_other := by
    intro v hstop hv hprint
    rw [List.getElem?_eq_getElem hi] at hv
    rw [style.row_over_mark hi p hstop, Option.some.inj hv, Value.mask_eq_dot hprint]
  behind_pair := by
    intro hstop hpos hr hf
    rw [style.length_pointer_of_le hi p hstop, isPairTail_iff.mpr ⟨hpos, hr, hf⟩, if_pos rfl]
  behind_other := by
    intro hstop hpair
    rw [style.length_pointer_of_le hi p hstop, if_neg fun ht => hpair (isPairTail_iff.mp ht)]

/-- Rows without breaks are the last two pieces between the line feeds of a text. -/
theorem pieces_headed {message row pointer : Text}
    (h : ∀ c ∈ row ++ pointer, c.isLineBreak = false) :
    Text.pieces (CodePoint.ofChar '\n') (headed message ++ (row ++ text "\n" ++ pointer)) =
      (if message = [] then [] else Text.pieces (CodePoint.ofChar '\n') message) ++
        [row, pointer] := by
  have hrow : CodePoint.ofChar '\n' ∉ row := fun hc =>
    absurd (h _ (List.mem_append_left _ hc)) (by decide)
  have hpointer : CodePoint.ofChar '\n' ∉ pointer := fun hc =>
    absurd (h _ (List.mem_append_right _ hc)) (by decide)
  have hrows : Text.pieces (CodePoint.ofChar '\n') (row ++ text "\n" ++ pointer) =
      [row, pointer] := by
    rw [List.append_assoc]
    show Text.pieces _ (row ++ CodePoint.ofChar '\n' :: pointer) = _
    rw [Text.pieces_append_cons, Text.pieces_of_not_mem hrow, Text.pieces_of_not_mem hpointer]
    rfl
  unfold headed
  by_cases hm : message = []
  · rw [if_pos hm, if_pos hm, List.nil_append, hrows, List.nil_append]
  · rw [if_neg hm, if_neg hm, List.append_assoc]
    show Text.pieces _ (message ++ CodePoint.ofChar '\n' :: (row ++ text "\n" ++ pointer)) = _
    rw [Text.pieces_append_cons, hrows]

/-- **Every display points at its element.** For each kind of sequence, each index inside it, any
headline and any visible mark, the display is the headline and two rows that hold no break, and the
mark stands under the element or, for a break or the marker, right behind the line. -/
theorem pointAt_aligned (s : Sequence) {i : Nat} (hi : i < s.elements.length) (message : Text)
    {p : CodePoint} (hp : p.isBetween '!' '~' = true) (numbers : Value) :
    ∃ row pointer,
      pointAt s i (.text message) ⟨.text [p], numbers⟩ =
        .ok ((if message = [] then [] else message ++ text "\n") ++
          (row ++ text "\n" ++ pointer)) ∧
      Text.pieces (CodePoint.ofChar '\n') ((if message = [] then [] else message ++ text "\n") ++
          (row ++ text "\n" ++ pointer)) =
        (if message = [] then [] else Text.pieces (CodePoint.ofChar '\n') message) ++
          [row, pointer] ∧
      Aligned s.elements i
        (if numbers.truthy then Text.ofNat (lineNumber s.elements i) ++ text ": " else []) p
        row pointer := by
  have hmark : checkMark (PointerStyle.mk (.text [p]) numbers).mark = .ok p :=
    checkMark_of_isBetween hp
  have haligned := aligned_rows hi ⟨.text [p], numbers⟩ (CodePoint.isPrint_of_isBetween hp)
  exact ⟨_, _, pointAt_eq hi hmark message, pieces_headed haligned.unbroken, haligned⟩

/-- The line feed of a pair, under a headline of two lines. -/
theorem pointAt_aligned_pair :
    let s := Sequence.source (Source.ofCharacters (text "ab\r\ncd"))
    ∃ row pointer,
      pointAt s 3 (.text (text "two\nlines")) PointerStyle.standard =
        .ok (text "two\nlines\n" ++ (row ++ text "\n" ++ pointer)) ∧
      pointer.length = row.length + 2 := by
  intro s
  obtain ⟨row, pointer, hdisplay, -, haligned⟩ :=
    @pointAt_aligned s 3 (by decide) (text "two\nlines") (CodePoint.ofChar '^') (by decide)
      (.bool true)
  exact ⟨row, pointer, hdisplay, haligned.behind_pair (by decide) (by decide) rfl rfl⟩

end Caret

import Caret.Proofs.LineWindows
import Caret.Sequence
import Caret.Text.Lines

/-!
# The lines of a decoded text

A text is split into lines from its start, each break with the line that it ends. The questions about
an index of a source look around the index instead. Both grow by one element in the same way when a
character is put in front of a text. Main statement: the number of the line of an index picks the
line that lies between its bounds, and the end marker is on the last line.
-/

namespace Caret

/-! ### Splitting -/

namespace Text

theorem lines_return {rest : Text} (h : rest.head? ≠ some (CodePoint.ofChar '\n')) :
    lines (CodePoint.ofChar '\r' :: rest) = ⟨[], [CodePoint.ofChar '\r']⟩ :: lines rest := by
  rw [lines, if_neg (by decide), if_pos rfl, if_neg h]

theorem lines_pair (rest : Text) :
    lines (CodePoint.ofChar '\r' :: CodePoint.ofChar '\n' :: rest) =
      ⟨[], [CodePoint.ofChar '\r', CodePoint.ofChar '\n']⟩ :: lines rest := by
  rw [lines, if_neg (by decide), if_pos rfl, List.head?_cons, if_pos rfl, lines_lineFeed]
  rfl

theorem lines_cons {c : CodePoint} (hc : c.isLineBreak = false) (rest : Text) :
    lines (c :: rest) = Line.addContent c (lines rest) := by
  simp only [CodePoint.isLineBreak, Bool.or_eq_false_iff, beq_eq_false_iff_ne] at hc
  rw [lines, if_neg hc.1, if_neg hc.2]

end Text

/-! ### Where a line lies -/

/-- Line `k` of some lines, counted from zero, has its content between two offsets of their text. -/
def Line.Lies (ls : List Line) (k start stop : Nat) : Prop :=
  ∃ l, ls[k]? = some l ∧ start = ((ls.take k).flatMap Line.toText).length ∧
    stop = start + l.content.length

namespace Line

theorem lies_zero (l : Line) (ls : List Line) : Lies (l :: ls) 0 0 l.content.length :=
  ⟨l, rfl, rfl, (Nat.zero_add _).symm⟩

theorem lies_cons {ls : List Line} {k start stop : Nat} (h : Lies ls k start stop) (l : Line) :
    Lies (l :: ls) (k + 1) (start + l.toText.length) (stop + l.toText.length) := by
  obtain ⟨m, hm, rfl, rfl⟩ := h
  refine ⟨m, hm, ?_, Nat.add_right_comm ..⟩
  rw [List.take_succ_cons, List.flatMap_cons, List.length_append, Nat.add_comm]

/-- A first line that is longer by one moves all others. -/
theorem Lies.move {l l' : Line} {ls : List Line} {k start stop : Nat}
    (h : Lies (l :: ls) (k + 1) start stop) (hl : l'.toText.length = l.toText.length + 1) :
    Lies (l' :: ls) (k + 1) (start + 1) (stop + 1) := by
  obtain ⟨m, hm, rfl, rfl⟩ := h
  refine ⟨m, hm, ?_, Nat.add_right_comm ..⟩
  rw [List.take_succ_cons, List.take_succ_cons, List.flatMap_cons, List.flatMap_cons,
    List.length_append, List.length_append, hl]
  omega

theorem lies_cons_zero_iff {l : Line} {ls : List Line} {start stop : Nat} :
    Lies (l :: ls) 0 start stop ↔ start = 0 ∧ stop = l.content.length := by
  constructor
  · rintro ⟨m, hm, hstart, hstop⟩
    obtain rfl : l = m := Option.some.inj hm
    have hzero : start = 0 := hstart
    exact ⟨hzero, by omega⟩
  · rintro ⟨rfl, rfl⟩
    exact lies_zero l ls

theorem Lies.unique {ls : List Line} {k start stop start' stop' : Nat}
    (h : Lies ls k start stop) (h' : Lies ls k start' stop') : start = start' ∧ stop = stop' := by
  obtain ⟨l, hl, rfl, rfl⟩ := h
  obtain ⟨l', hl', rfl, rfl⟩ := h'
  obtain rfl : l = l' := Option.some.inj (hl.symm.trans hl')
  exact ⟨rfl, rfl⟩

theorem Lies.exists_cons {ls : List Line} {k start stop : Nat} (h : Lies ls k start stop) :
    ∃ l rest, ls = l :: rest := by
  obtain ⟨m, hm, -⟩ := h
  cases ls with
  | nil => simp at hm
  | cons l rest => exact ⟨l, rest, rfl⟩

/-- What stands between the offsets is the content of the line. -/
theorem Lies.part {ls : List Line} {k start stop : Nat} (h : Lies ls k start stop) :
    ∃ l, ls[k]? = some l ∧ start ≤ stop ∧ stop ≤ (ls.flatMap Line.toText).length ∧
      ((ls.flatMap Line.toText).take stop).drop start = l.content := by
  obtain ⟨l, hl, rfl, rfl⟩ := h
  obtain ⟨hk, rfl⟩ := List.getElem?_eq_some_iff.mp hl
  have hsplit : ls.flatMap Line.toText = (ls.take k).flatMap Line.toText ++
      (ls[k].content ++ (ls[k].ending ++ (ls.drop (k + 1)).flatMap Line.toText)) := by
    conv => lhs; rw [← List.take_append_drop k ls, List.drop_eq_getElem_cons hk]
    rw [List.flatMap_append, List.flatMap_cons, Line.toText, List.append_assoc]
  refine ⟨ls[k], hl, Nat.le_add_right .., ?_, ?_⟩
  · rw [hsplit]
    simp only [List.length_append]
    omega
  · rw [hsplit, List.drop_take, List.drop_left, Nat.add_sub_cancel_left, List.take_left]

end Line

/-! ### Sources of characters -/

/-- A character ends its line as the split has it: a return does not before a line feed. -/
theorem Source.endsLine_ofCodePoint (c : CodePoint) (cs : Text) :
    endsLine (.ofCodePoint c) (Source.ofCharacters cs).items =
      (c == CodePoint.ofChar '\n' ||
        c == CodePoint.ofChar '\r' && !(cs.head?.any (· == CodePoint.ofChar '\n'))) := by
  cases cs <;> rfl

/-! ### An element in front -/

/-- Every index of a sequence is on the line of its number among some lines, and the last index is
on the last of them. -/
structure LinesAgree (xs : List Value) (ls : List Line) : Prop where
  line : ∀ i : Nat, i < xs.length → ∃ k, lineNumber xs i = k + 1 ∧
    Line.Lies ls k (lineStart xs i) (lineStop xs i)
  last : lineNumber xs (xs.length - 1) = ls.length

namespace LinesAgree

theorem eot : LinesAgree [.eot] [⟨[], []⟩] := by
  refine ⟨fun i hi => ?_, lineNumber_zero _⟩
  obtain rfl : i = 0 := Nat.lt_one_iff.mp hi
  exact ⟨0, lineNumber_zero _, Line.lies_zero ⟨[], []⟩ []⟩

variable {v w : Value} {xs : List Value} {ls : List Line}

/-- A break alone is an empty line. -/
theorem lies_break (hv : v.isLineBreak = true) (ending : Text) :
    Line.Lies (⟨[], ending⟩ :: ls) 0 (lineStart (v :: xs) 0) (lineStop (v :: xs) 0) := by
  rw [lineStart_zero, lineStop_cons_zero, hv, Bool.or_true, if_pos rfl]
  exact Line.lies_zero ⟨[], ending⟩ ls

/-- A break that ends its line puts an empty line in front. -/
theorem cons_break (he : endsLine v xs = true) (hxs : 0 < xs.length) (ih : LinesAgree xs ls)
    (c : CodePoint) : LinesAgree (v :: xs) (⟨[], [c]⟩ :: ls) := by
  obtain ⟨hbreak, hpair⟩ : v.isLineBreak = true ∧ isPairTail (v :: xs) 1 = false := by
    rw [endsLine_eq_and] at he
    simpa using he
  refine ⟨fun i hi => ?_, ?_⟩
  · cases i with
    | zero => exact ⟨0, lineNumber_zero _, lies_break hbreak [c]⟩
    | succ i =>
      have hlt : i < xs.length := Nat.lt_of_succ_lt_succ hi
      obtain ⟨k, hnumber, hlies⟩ := ih.line i hlt
      have hnext : lineNumber (v :: xs) (i + 1) = k + 1 + 1 := by
        rw [lineNumber_cons v (Nat.le_of_lt hlt), if_pos he, hnumber]
      refine ⟨k + 1, hnext, ?_⟩
      rw [lineStart_cons v (Nat.le_of_lt hlt), hnext, if_neg (by omega),
        lineStop_cons_succ v fun _ => hpair]
      exact Line.lies_cons hlies ⟨[], [c]⟩
  · rw [lineNumber_cons_last v hxs, if_pos he, ih.last, List.length_cons]

/-- An element that does not end its line keeps the number of every other one. A later line is one
place behind, and the first begins with the element. -/
theorem cons_later {l l' : Line} (he : endsLine v xs = false)
    (hl : l'.toText.length = l.toText.length + 1) {i k : Nat} (hlt : i < xs.length)
    (hnumber : lineNumber xs i = k + 2) (hpair : i = 0 → isPairTail (v :: xs) 1 = false)
    (hlies : Line.Lies (l :: ls) (k + 1) (lineStart xs i) (lineStop xs i)) :
    lineNumber (v :: xs) (i + 1) = k + 2 ∧
      Line.Lies (l' :: ls) (k + 1) (lineStart (v :: xs) (i + 1)) (lineStop (v :: xs) (i + 1)) := by
  have hnext : lineNumber (v :: xs) (i + 1) = k + 2 := by
    rw [lineNumber_cons v (Nat.le_of_lt hlt), he, hnumber]
    rfl
  refine ⟨hnext, ?_⟩
  rw [lineStart_cons v (Nat.le_of_lt hlt), hnext, if_neg (by omega), lineStop_cons_succ v hpair]
  exact hlies.move hl

/-- A return before a line feed makes the break of the first line longer. -/
theorem cons_pair (hv : v.isReturn = true) (hw : w.isLineFeed = true) {c d : CodePoint}
    (ih : LinesAgree (w :: xs) (⟨[], [d]⟩ :: ls)) :
    LinesAgree (v :: w :: xs) (⟨[], [c, d]⟩ :: ls) := by
  have hpair : isPairTail (v :: w :: xs) 1 = true := by
    rw [isPairTail]
    simp [hv, hw]
  have hbreak : v.isLineBreak = true := by simp [Value.isLineBreak_eq, hv]
  have hopen : endsLine v (w :: xs) = false := by
    rw [endsLine_eq_and, hpair, Bool.not_true, Bool.and_false]
  have hended : endsLine w xs = true := by simp [endsLine, hw]
  refine ⟨fun i hi => ?_, ?_⟩
  · rcases i with _ | _ | i
    · exact ⟨0, lineNumber_zero _, lies_break hbreak [c, d]⟩
    · -- the line feed has moved from a line of its own to the line of the return
      have hnext : lineNumber (v :: w :: xs) (0 + 1) = 1 := by
        rw [lineNumber_cons v (Nat.zero_le _), lineNumber_zero, hopen]
        rfl
      refine ⟨0, hnext, ?_⟩
      rw [lineStart_cons v (Nat.zero_le _), hnext, if_pos rfl, lineStop_of_isPairTail hpair]
      exact Line.lies_zero ⟨[], [c, d]⟩ ls
    · have hlt : i + 1 < (w :: xs).length := Nat.lt_of_succ_lt_succ hi
      obtain ⟨k, hnumber, hlies⟩ := ih.line (i + 1) hlt
      have hpos := lineNumber_pos xs i
      have hprev : lineNumber (w :: xs) (i + 1) = lineNumber xs i + 1 := by
        rw [lineNumber_cons w (Nat.le_of_lt (Nat.lt_of_succ_lt_succ hlt)), if_pos hended]
      obtain ⟨k, rfl⟩ : ∃ j, k = j + 1 := ⟨k - 1, by omega⟩
      exact ⟨k + 1, cons_later hopen rfl hlt hnumber (by omega) hlies⟩
  · rw [lineNumber_cons_last v (by simp), hopen, ih.last]
    rfl

/-- Any other element becomes the first of the first line. -/
theorem cons (hb : v.isLineBreak = false) (he : v.isEot = false) (hxs : 0 < xs.length)
    (ih : LinesAgree xs ls) (c : CodePoint) : LinesAgree (v :: xs) (Line.addContent c ls) := by
  have hopen : endsLine v xs = false := by rw [endsLine_eq_and, hb, Bool.false_and]
  have hpair : isPairTail (v :: xs) 1 = false := by
    rw [Value.isLineBreak_eq, Bool.or_eq_false_iff] at hb
    rw [isPairTail]
    simp [hb.2]
  obtain ⟨k, hfirst, hlies⟩ := ih.line 0 hxs
  obtain rfl : k = 0 := by simpa using hfirst.symm
  obtain ⟨l, ls, rfl⟩ := hlies.exists_cons
  obtain ⟨-, hstop⟩ := Line.lies_cons_zero_iff.mp hlies
  refine ⟨fun i hi => ?_, ?_⟩
  · cases i with
    | zero =>
      refine ⟨0, lineNumber_zero _, Line.lies_cons_zero_iff.mpr ⟨lineStart_zero _, ?_⟩⟩
      rw [lineStop_cons_zero, he, hb, hstop]
      rfl
    | succ i =>
      have hlt : i < xs.length := Nat.lt_of_succ_lt_succ hi
      obtain ⟨k, hnumber, hlies⟩ := ih.line i hlt
      cases k with
      | zero =>
        obtain ⟨-, hstop⟩ := Line.lies_cons_zero_iff.mp hlies
        have hnext : lineNumber (v :: xs) (i + 1) = 1 := by
          rw [lineNumber_cons v (Nat.le_of_lt hlt), hnumber, hopen]
          rfl
        refine ⟨0, hnext, Line.lies_cons_zero_iff.mpr ⟨?_, ?_⟩⟩
        · rw [lineStart_cons v (Nat.le_of_lt hlt), if_pos hnext]
        · rw [lineStop_cons_succ v fun _ => hpair, hstop]
          rfl
      | succ k => exact ⟨k + 1, cons_later hopen rfl hlt hnumber (fun _ => hpair) hlies⟩
  · rw [lineNumber_cons_last v hxs, hopen, ih.last]
    rfl

/-- A number picks its line and with it the bounds, and the start of a line fixes its number. -/
theorem same_number_iff (h : LinesAgree xs ls) {i j : Nat} (hi : i < xs.length)
    (hj : j < xs.length) : lineNumber xs i = lineNumber xs j ↔
      lineStart xs i = lineStart xs j ∧ lineStop xs i = lineStop xs j := by
  constructor
  · intro hsame
    obtain ⟨k, hnumber, hlies⟩ := h.line i hi
    obtain ⟨k', hnumber', hlies'⟩ := h.line j hj
    obtain rfl : k = k' := by omega
    exact hlies.unique hlies'
  · rintro ⟨hstart, -⟩
    rw [lineNumber, lineNumber, hstart]

end LinesAgree

/-- **Scanning and splitting agree** on every text that is closed by the end marker. -/
theorem linesAgree_ofCharacters (cs : Text) :
    LinesAgree (Source.ofCharacters cs).items (Text.lines cs) := by
  induction cs with
  | nil => exact LinesAgree.eot
  | cons c cs ih =>
    have hxs : 0 < (Source.ofCharacters cs).items.length := by
      rw [Source.length_items_ofCharacters]
      omega
    have hends := Source.endsLine_ofCodePoint c cs
    rw [Source.items_ofCharacters_cons]
    by_cases hf : c = CodePoint.ofChar '\n'
    · subst hf
      rw [Text.lines_lineFeed]
      exact ih.cons_break (hends.trans (by simp)) hxs _
    · by_cases hr : c = CodePoint.ofChar '\r'
      · subst hr
        by_cases hh : cs.head? = some (CodePoint.ofChar '\n')
        · obtain ⟨cs, rfl⟩ := List.head?_eq_some_iff.mp hh
          rw [Text.lines_pair]
          rw [Text.lines_lineFeed] at ih
          exact LinesAgree.cons_pair rfl rfl ih
        · rw [Text.lines_return hh]
          refine ih.cons_break (hends.trans ?_) hxs _
          cases hd : cs.head? with
          | none => rfl
          | some d =>
            have hd : d ≠ CodePoint.ofChar '\n' := fun h => hh (by rw [hd, h])
            simp [hd]
      · have hb : c.isLineBreak = false := by simp [CodePoint.isLineBreak, hf, hr]
        rw [Text.lines_cons hb]
        exact LinesAgree.cons (v := .ofCodePoint c) hb rfl hxs ih c

/-! ### Texts -/

/-- **Numbers and bounds of lines are those of the text, split at its breaks.** The number of an index
picks the line whose content stands between the bounds, behind all lines before it with their breaks;
so indices share a number exactly when they share their bounds. -/
theorem lines_of_decoded {t : Text} {s : Source} (h : Source.decode t = .ok s) :
    ∃ body, s.toText = .ok body ∧
      (∀ i : Nat, i < s.length → ∃ (k start stop : Nat) (l : Line),
        Query.lineNumber.answer s.items i = .ok (.int k) ∧
        Query.lineBounds.answer s.items i = .ok (.tuple [.int start, .int stop]) ∧
        1 ≤ k ∧ k ≤ (Text.lines body).length ∧ (Text.lines body)[k - 1]? = some l ∧
        (Slice.between (some start) (some stop)).part body = l.content ∧
        start = (((Text.lines body).take (k - 1)).flatMap Line.toText).length) ∧
      Query.lineNumber.answer s.items (s.length - 1 : Nat) =
        .ok (.int (Text.lines body).length) ∧
      ∀ i j : Nat, i < s.length → j < s.length →
        (Query.lineNumber.answer s.items i = Query.lineNumber.answer s.items j ↔
          Query.lineBounds.answer s.items i = Query.lineBounds.answer s.items j) := by
  obtain ⟨cs, -, rfl⟩ := Source.decode_eq_ok h
  have hagree := linesAgree_ofCharacters cs
  refine ⟨cs, Source.toText_ofCharacters cs, fun i hi => ?_, ?_, fun i j hi hj => ?_⟩
  · obtain ⟨k, hnumber, hlies⟩ := hagree.line i hi
    obtain ⟨l, hl, hle, hstop, hpart⟩ := hlies.part
    rw [Text.flatMap_toText_lines] at hstop hpart
    obtain ⟨hk, -⟩ := List.getElem?_eq_some_iff.mp hl
    refine ⟨k + 1, lineStart _ i, lineStop _ i, l, ?_, Query.answer_lineBounds hi, Nat.succ_pos k,
      hk, hl, ?_, ?_⟩
    · rw [Query.answer_lineNumber hi, hnumber]
    · rw [Slice.part_between _ hle hstop, hpart]
    · obtain ⟨-, -, hstart, -⟩ := hlies
      exact hstart
  · have hlen := Source.length_items_ofCharacters cs
    have hlast : (Source.ofCharacters cs).length - 1 < (Source.ofCharacters cs).items.length := by
      unfold Source.length
      omega
    rw [Query.answer_lineNumber hlast]
    exact congrArg (fun n : Nat => Except.ok (Value.int n)) hagree.last
  · rw [Query.answer_lineNumber hi, Query.answer_lineNumber hj, Query.answer_lineBounds hi,
      Query.answer_lineBounds hj]
    have hsame := hagree.same_number_iff hi hj
    simpa [Int.ofNat_inj] using hsame

/-- A character beyond U+FFFF, a return with a line feed, and a return before the end marker. -/
theorem lines_of_decoded_surrogates :
    let t := [CodePoint.ofNat 0xD83D, CodePoint.ofNat 0xDE00] ++ text "\r\n\r"
    let s := Source.ofCharacters (CodePoint.ofNat 0x1F600 :: text "\r\n\r")
    Source.decode t = .ok s ∧ ∃ body, s.toText = .ok body ∧
      Query.lineNumber.answer s.items 4 = .ok (.int (Text.lines body).length) ∧
      (∃ (k : Nat) (l : Line), Query.lineNumber.answer s.items 2 = .ok (.int k) ∧
        (Text.lines body)[k - 1]? = some l) ∧
      (Query.lineNumber.answer s.items 1 = Query.lineNumber.answer s.items 2 ↔
        Query.lineBounds.answer s.items 1 = Query.lineBounds.answer s.items 2) := by
  intro t s
  have hs : Source.decode t = .ok s := rfl
  obtain ⟨body, hbody, hlines, hlast, hiff⟩ := lines_of_decoded hs
  obtain ⟨k, _, _, l, hnumber, -, -, -, hl, -⟩ := hlines 2 (by decide)
  exact ⟨hs, body, hbody, hlast, ⟨k, l, hnumber, hl⟩, hiff 1 2 (by decide) (by decide)⟩

end Caret

import Caret.Proofs.ReportOutcomes
import Mathlib.Data.List.TakeWhile

/-!
# Colors are inserted

A colored line is the plain line of the same record with color codes put in: around the name of the
level and, where the record points at a column and its message has several lines, around the last of
them. The codes are put into a message that is expanded by then and is not expanded again. Main
statement: what is put in and where, that a record is refused by both ways of writing or by neither,
and that of a diagnostic the pointer is painted, whatever its message is.
-/

namespace Caret

namespace Text

theorem splitLast?_append {c : CodePoint} {head tail : Text} (h : c ∉ tail) :
    splitLast? c (head ++ c :: tail) = some (head, tail) := by
  have hkeep : ∀ a ∈ tail.reverse, (a != c) = true :=
    fun a ha => bne_iff_ne.mpr fun hac => h (hac ▸ List.mem_reverse.mp ha)
  have hreverse : (head ++ c :: tail).reverse = tail.reverse ++ c :: head.reverse := by simp
  rw [splitLast?, hreverse, List.dropWhile_append_of_pos hkeep, List.takeWhile_append_of_pos hkeep]
  simp

theorem splitLast?_eq_none_iff {c : CodePoint} {t : Text} : splitLast? c t = none ↔ c ∉ t := by
  have hdrop : t.reverse.dropWhile (· != c) = [] ↔ c ∉ t := by
    rw [List.dropWhile_eq_nil_iff]
    constructor
    · intro hall hmem
      exact bne_iff_ne.mp (hall c (List.mem_reverse.mpr hmem)) rfl
    · intro hmem a ha
      exact bne_iff_ne.mpr fun hac => hmem (hac ▸ List.mem_reverse.mp ha)
  rw [← hdrop, splitLast?]
  split
  · next hnil => simp [hnil]
  · next hcons => simp [hcons]

end Text

namespace Formatter

/-! ### Lines of the standard layout -/

/-- What the text of a failure adds behind a line. -/
def failureTail (failure line : Text) : Text :=
  if failure = [] then []
  else (if line.getLast? = some newline then [] else [newline]) ++ failure

theorem withFailure_eq (failure line : Text) :
    withFailure failure line = line ++ failureTail failure line := by
  unfold withFailure failureTail
  cases failure with
  | nil => exact (List.append_nil line).symm
  | cons c t =>
    rw [if_neg (List.cons_ne_nil c t)]
    dsimp only [List.isEmpty_cons]
    rw [if_neg Bool.false_ne_true]
    split <;> simp

/-- A blank stands before the message, so a line ends with a break only if its message does. -/
theorem failureTail_standardLine (failure : Text) (r : Record) (levelName message : Text) :
    failureTail failure (standardLine r levelName message) = failureTail failure message := by
  have hlast : (standardLine r levelName message).getLast? = some newline ↔
      message.getLast? = some newline := by
    cases hmessage : message.getLast? with
    | none =>
      obtain rfl := List.getLast?_eq_none_iff.mp hmessage
      simp [standardLine, text, newline, List.getLast?_cons, CodePoint.ofChar]
    | some c => simp [standardLine, hmessage]
  simp only [failureTail, hlast]

theorem writePlain_tail (r : Record) :
    (writePlain Layout.standard r).1 = r.text.map fun message =>
      standardLine r r.levelName message ++ failureTail (failureText r) message := by
  simp only [writePlain_standard, withFailure_eq, failureTail_standardLine]

/-- The text of a failure is a matter of the failure and of what is noted of it. -/
theorem failureText_congr {r r' : Record} (hfailure : r.failure = r'.failure)
    (hnoted : r.notes.failure = r'.notes.failure) : failureText r = failureText r' := by
  rw [failureText, failureText, Record.failure_noteFailure, Record.failure_noteFailure, hfailure,
    hnoted]

/-! ### Painted messages -/

/-- The extra fields of the record are a dictionary with a column. -/
def PointsAtColumn (r : Record) : Prop :=
  ∃ es v, r.fields = some (.dictionary es) ∧ (.text (text "column"), v) ∈ es

theorem pointsAtColumn_iff {r : Record} : pointsAtColumn r = true ↔ PointsAtColumn r := by
  unfold pointsAtColumn PointsAtColumn
  split
  · next es hes => simp [hes, Value.same_text_iff]
  · next hnone =>
    constructor
    · nofun
    · rintro ⟨es, v, hes, -⟩
      exact absurd hes (hnone es)

/-- A painted text ends with a code. -/
theorem getLast?_paint (head codes last : Text) :
    (head ++ newline :: paint codes last).getLast? = some (CodePoint.ofChar 'm') := by
  have hreset : Color.reset.code = text "\x1b[0" ++ [CodePoint.ofChar 'm'] := rfl
  rw [paint, hreset, ← List.append_assoc, ← List.cons_append, ← List.append_assoc,
    List.getLast?_concat]

/-- Behind an empty line a failure gets one more break once the line is painted. -/
theorem failureTail_paint (failure codes : Text) {head last : Text}
    (hlast : newline ∉ last) :
    failureTail failure (head ++ newline :: paint codes last) =
      (if last = [] ∧ failure ≠ [] then [newline] else []) ++
        failureTail failure (head ++ newline :: last) := by
  have hpainted : some (CodePoint.ofChar 'm') ≠ some newline := by decide
  have hends : (head ++ newline :: last).getLast? = some newline ↔ last = [] := by
    cases hl : last.getLast? with
    | none =>
      obtain rfl := List.getLast?_eq_none_iff.mp hl
      simp
    | some c =>
      have hmem : c ∈ last := List.mem_of_getLast? hl
      have hne : c ≠ newline := fun h => hlast (h ▸ hmem)
      simp [List.getLast?_cons, hl, hne, List.ne_nil_of_mem hmem]
  simp only [failureTail, getLast?_paint, if_neg hpainted, hends]
  by_cases hnone : failure = []
  · simp [hnone]
  · by_cases hempty : last = [] <;> simp [hnone, hempty]

/-! ### Colored lines -/

section Colored

variable {r : Record}

/-- The record that is written in the place of one whose last line is painted. -/
def pointed (r : Record) (head last : Text) : Record := { named r with
  message := .text (head ++ newline :: paint (Color.bold.code ++ levelCodes r.level) last)
  arguments := [] }

/-- The message is expanded by both ways of writing, and by nothing else can they fail. -/
theorem writeColored_of_error {f : Fault} (layout : Layout) (h : r.text = .error f) :
    (writeColored layout r).1 = .error f := by
  have hnamed : (named r).text = .error f := h
  unfold writeColored painted highlighted
  split
  · rw [hnamed]
    rfl
  · rw [Except.bind, writePlain, hnamed]

variable {message : Text} (htext : r.text = .ok message)
include htext

theorem writeColored_of_name (h : ¬ PointsAtColumn r ∨ newline ∉ message) :
    (writeColored Layout.standard r).1 =
      .ok (standardLine r (paint (levelCodes r.level) r.levelName) message ++
        failureTail (failureText r) message) := by
  have hnamed : (named r).text = .ok message := htext
  have hsame : highlighted (Color.bold.code ++ levelCodes r.level) (named r) = .ok (named r) := by
    unfold highlighted
    split
    · next hpoints =>
      have hnone : newline ∉ message :=
        h.resolve_left fun hnot => hnot (pointsAtColumn_iff.mp hpoints)
      rw [hnamed, Except.map, Text.splitLast?_eq_none_iff.mpr hnone]
    · rfl
  have htail : failureText (named r) = failureText r := failureText_congr rfl rfl
  rw [writeColored, painted, hsame, Except.bind, writePlain_tail, hnamed, Except.map, htail]
  rfl

/-- The new message is written as it is: it comes without arguments. -/
theorem writeColored_of_last (hpoints : PointsAtColumn r) {head last : Text}
    (hmessage : message = head ++ newline :: last) (hlast : newline ∉ last) :
    (writeColored Layout.standard r).1 =
      .ok (standardLine r (paint (levelCodes r.level) r.levelName)
          (head ++ newline :: paint (Color.bold.code ++ levelCodes r.level) last) ++
        ((if last = [] ∧ failureText r ≠ [] then [newline] else []) ++
          failureTail (failureText r) message)) := by
  have hnamed : (named r).text = .ok message := htext
  have hpainted : highlighted (Color.bold.code ++ levelCodes r.level) (named r) =
      .ok (pointed r head last) := by
    have hnamedPoints : pointsAtColumn (named r) = true := pointsAtColumn_iff.mpr hpoints
    rw [highlighted, if_pos hnamedPoints, hnamed, Except.map, hmessage,
      Text.splitLast?_append hlast]
    rfl
  have htext' : (pointed r head last).text =
      .ok (head ++ newline :: paint (Color.bold.code ++ levelCodes r.level) last) := rfl
  have htail : failureText (pointed r head last) = failureText r := failureText_congr rfl rfl
  rw [writeColored, painted, hpainted, Except.bind, writePlain_tail, htext', Except.map, htail,
    failureTail_paint _ _ hlast, ← hmessage]
  rfl

end Colored

/-- How the colored line of a record differs from its plain one. The codes stand around the name of
the level, and around the last line of a message that has several if the record points at a column.
Where that line is empty, the text of a failure starts one line further below. -/
structure Inserted (r : Record) (message plain colored : Text) : Prop where
  plain_eq : plain = standardLine r r.levelName message ++ failureTail (failureText r) message
  around_name : ¬ PointsAtColumn r ∨ newline ∉ message →
    colored = standardLine r (paint (levelCodes r.level) r.levelName) message ++
      failureTail (failureText r) message
  around_last : PointsAtColumn r → ∀ head last,
    message = head ++ newline :: last → newline ∉ last →
      colored = standardLine r (paint (levelCodes r.level) r.levelName)
          (head ++ newline :: paint (Color.bold.code ++ levelCodes r.level) last) ++
        ((if last = [] ∧ failureText r ≠ [] then [newline] else []) ++
          failureTail (failureText r) message)

theorem writeColored_eq_ok {r : Record} {message : Text} (htext : r.text = .ok message) :
    ∃ colored, (writeColored Layout.standard r).1 = .ok colored ∧
      Inserted r message (standardLine r r.levelName message ++ failureTail (failureText r) message)
        colored := by
  by_cases hname : ¬ PointsAtColumn r ∨ newline ∉ message
  · refine ⟨_, writeColored_of_name htext hname, rfl, fun _ => rfl, ?_⟩
    intro hpoints head last hmessage
    have hmem : newline ∈ message := by simp [hmessage]
    exact absurd hmem (hname.resolve_left fun hnot => hnot hpoints)
  · obtain ⟨hpoints, hmem⟩ := not_or.mp hname
    cases hsplit : message.splitLast? newline with
    | none => exact absurd (Text.splitLast?_eq_none_iff.mp hsplit) hmem
    | some parts =>
      obtain ⟨head, last⟩ := parts
      obtain ⟨hmessage, hlast⟩ := Text.splitLast?_eq_some hsplit
      refine ⟨_, writeColored_of_last htext (not_not.mp hpoints) hmessage hlast, rfl,
        fun hname' => absurd hname' hname, ?_⟩
      intro _ head' last' hmessage' hlast'
      -- a text is split at its last break in one way only
      have hsplit' : message.splitLast? newline = some (head', last') :=
        hmessage' ▸ Text.splitLast?_append hlast'
      obtain ⟨rfl, rfl⟩ := Prod.mk.inj (Option.some.inj (hsplit.symm.trans hsplit'))
      rfl

end Formatter

/-! ### Pointers -/

namespace Diagnostic

/-- A diagnostic that has an event has a display: its headline, the line and the pointer. -/
theorem event_eq_ok {d : Diagnostic} {level : Int} {e : Event} (h : d.event level = .ok e) :
    ∃ (i : Nat) (p : CodePoint) (headline : Text),
      d.style.mark = .text [p] ∧ p.isBetween '!' '~' = true ∧
      e = shown level (headed headline ++
        (d.style.row d.sequence.elements i ++ text "\n" ++ d.style.pointer p d.sequence.elements i))
        d.sequence.elements i := by
  by_cases hinside : Inside d.sequence.elements d.index
  · obtain ⟨i, hindex, hi⟩ := hinside.exists_nat
    by_cases hmark : VisibleMark d.style.mark
    · obtain ⟨p, hp⟩ := hmark.exists_ok
      obtain ⟨hmark_eq, hvisible⟩ := checkMark_eq_ok_iff.mp hp
      have hevent := event_eq hindex hi level (pointAt_eq hi hp _)
      exact ⟨i, p, _, hmark_eq, hvisible, Except.ok.inj (h.symm.trans hevent)⟩
    · rw [event_of_not_visible hindex hi level hmark] at h
      cases h
  · have hevent : d.event level = .error (.outside d.index d.sequence.elements.length) := by
      rw [event, location_of_not_inside hinside]
      rfl
    rw [hevent] at h
    cases h

end Diagnostic

theorem PointerStyle.newline_not_mem_pointer (style : PointerStyle) {p : CodePoint}
    (hp : p.isBetween '!' '~' = true) (xs : List Value) (i : Nat) :
    Formatter.newline ∉ style.pointer p xs i := by
  intro hmem
  have hprint := style.isPrint_of_mem_pointer xs i (CodePoint.isPrint_of_isBetween hp) hmem
  exact absurd hprint (by decide)

namespace Formatter

theorem pointsAtColumn_shown (origin : Origin) (logger : Text) (level : Int) (display : Text)
    (xs : List Value) (i : Nat) :
    PointsAtColumn (Session.record origin logger (Diagnostic.shown level display xs i)) :=
  ⟨_, .int (locate xs i).column, rfl, List.mem_cons_of_mem _ List.mem_cons_self⟩

/-- What is painted of the message of a record is blanks and the mark of a diagnostic. -/
def PointerPainted (d : Diagnostic) (r : Record) : Prop :=
  ∃ (above : Text) (n : Nat) (p : CodePoint),
    let pointer := List.replicate n (CodePoint.ofChar ' ') ++ [p]
    d.style.mark = .text [p] ∧ p.isBetween '!' '~' = true ∧
    r.text = .ok (above ++ newline :: pointer) ∧
    (writeColored Layout.standard r).1 = .ok (standardLine r (paint (levelCodes r.level) r.levelName)
      (above ++ newline :: paint (Color.bold.code ++ levelCodes r.level) pointer))

/-- The pointer is the last line of a display, whatever breaks the headline has. -/
theorem pointerPainted_of_event {d : Diagnostic} {level : Int} {e : Event}
    (h : d.event level = .ok e) (origin : Origin) (logger : Text) :
    PointerPainted d (Session.record origin logger e) := by
  obtain ⟨i, p, headline, hmark, hvisible, rfl⟩ := d.event_eq_ok h
  have hlast := d.style.newline_not_mem_pointer hvisible d.sequence.elements i
  have hmessage : headed headline ++ (d.style.row d.sequence.elements i ++ text "\n" ++
        d.style.pointer p d.sequence.elements i) =
      (headed headline ++ d.style.row d.sequence.elements i) ++
        newline :: d.style.pointer p d.sequence.elements i := by
    simp [text, newline]
  rw [hmessage]
  refine ⟨headed headline ++ d.style.row d.sequence.elements i, _, p, hmark, hvisible, rfl, ?_⟩
  rw [writeColored_of_last rfl (pointsAtColumn_shown ..) rfl hlast]
  -- no failure comes with a diagnostic, and none has been noted
  simp [failureTail, failureText, Session.record, Record.ofEvent, Record.noteFailure, Notes.blank,
    Diagnostic.shown, PointerStyle.pointer]

/-- **Colors are inserted.** Every record that has a plain line has a colored line, with the message
expanded as in the plain one and the codes put in around the name of the level and the last line.
Every other record is refused for the same fault. Of the event of a diagnostic it is the pointer
that is painted: blanks and the mark, and nothing of the headline or the line. -/
theorem colors_are_inserted :
    (∀ r f, (writeColored Layout.standard r).1 = .error f ↔
      (writePlain Layout.standard r).1 = .error f) ∧
    (∀ r plain, (writePlain Layout.standard r).1 = .ok plain → ∃ message colored,
      r.text = .ok message ∧ (writeColored Layout.standard r).1 = .ok colored ∧
        Inserted r message plain colored) ∧
    (∀ (d : Diagnostic) level e origin logger, d.event level = .ok e →
      PointerPainted d (Session.record origin logger e)) := by
  refine ⟨fun r f => ?_, fun r plain hplain => ?_, fun _ _ _ origin logger h =>
    pointerPainted_of_event h origin logger⟩
  · rw [writePlain_tail]
    cases htext : r.text with
    | error g => rw [writeColored_of_error _ htext, Except.map]
    | ok message =>
      obtain ⟨colored, hcolored, -⟩ := writeColored_eq_ok htext
      rw [hcolored, Except.map]
      exact iff_of_false nofun nofun
  · rw [writePlain_tail] at hplain
    cases htext : r.text with
    | error g =>
      rw [htext] at hplain
      cases hplain
    | ok message =>
      rw [htext] at hplain
      obtain rfl := Except.ok.inj hplain
      obtain ⟨colored, hcolored, hinserted⟩ := writeColored_eq_ok htext
      exact ⟨message, colored, rfl, hcolored, hinserted⟩

/-- A percent sign that an argument brings stays as it is, and above the text of a failure an empty
last line gets a break more. -/
theorem colors_are_inserted_above_failure :
    let r : Record := .ofEvent { (default : Origin) with time := text "10:00" } (text "app")
      { level := Level.error, message := .text (text "%s of\n"), arguments := [.text (text "9%s")]
        fields := some (.dictionary [(.text (text "column"), .int 1)])
        failure := some (.named (text "E") (text "m")) }
    (writePlain Layout.standard r).1 = .ok (text "10:00 - app - ERROR - 9%s of\nE: m") ∧
      (writeColored Layout.standard r).1 =
        .ok (text "10:00 - app - \x1b[31mERROR\x1b[0m - 9%s of\n\x1b[1m\x1b[31m\x1b[0m\nE: m") := by
  intro r
  have htext : r.text = .ok (text "9%s of" ++ newline :: []) := by rfl
  have hplain : (writePlain Layout.standard r).1 =
      .ok (text "10:00 - app - ERROR - 9%s of\nE: m") := by
    rw [writePlain_tail, htext]
    rfl
  have hpoints : PointsAtColumn r := ⟨_, .int 1, rfl, List.mem_cons_self⟩
  obtain ⟨-, hlines, -⟩ := colors_are_inserted
  obtain ⟨message, colored, hmessage, hcolored, hinserted⟩ := hlines r _ hplain
  obtain rfl := Except.ok.inj (htext.symm.trans hmessage)
  refine ⟨hplain, ?_⟩
  rw [hcolored, hinserted.around_last hpoints _ [] rfl List.not_mem_nil]
  rfl

end Formatter

end Caret

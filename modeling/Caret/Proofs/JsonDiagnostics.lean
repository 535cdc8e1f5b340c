import Caret.Proofs.JsonRecords
import Caret.Proofs.PointerRefusals
import Caret.Proofs.SetupRuns

/-!
# Diagnostics as JSON

A diagnostic that is logged has a display for its message and its place for extra fields, none of
which has the name of a member that every record has. Main statement: where the console gets JSON,
the one line of a diagnostic is read back as the location, the index, the masked line and the whole
display, and the column finds the element in the masked line.
-/

namespace Caret

/-! ### Texts without surrogates -/

namespace Text

theorem pairs_of_isSurrogate {t : Text} (h : ∀ c ∈ t, c.isSurrogate = false) : t.pairs = 0 := by
  induction t with
  | nil => rfl
  | cons c t ih =>
    obtain ⟨hc, ht⟩ := List.forall_mem_cons.mp h
    rw [pairs_cons (CodePoint.isHighSurrogate_of_not_isSurrogate hc)]
    exact ih ht

end Text

theorem CodePoint.isSurrogate_of_isPrint {c : CodePoint} (h : c.isPrint = true) :
    c.isSurrogate = false := by
  have hprint := CodePoint.isPrint_iff.mp h
  rw [Bool.eq_false_iff, ne_eq, CodePoint.isSurrogate_iff]
  omega

theorem isPrint_of_checkMark {mark : Value} {p : CodePoint} (h : checkMark mark = .ok p) :
    p.isPrint = true := CodePoint.isPrint_of_isBetween (checkMark_eq_ok_iff.mp h).2

theorem Location.printed_display (l : Location) : Json.Printed l.display := by
  have hcolon : Json.Printed (text ":") := by decide
  exact ((Json.printed_ofInt l.line).append hcolon).append (Json.printed_ofInt l.column)

theorem Json.Printed.isSurrogate {t : Text} (h : Json.Printed t) : ∀ c ∈ t, c.isSurrogate = false :=
  fun c hc => CodePoint.isSurrogate_of_isPrint (h c hc)

/-! ### What the console gets -/

namespace Handler

def isConsole (h : Handler) : Bool :=
  match h.target with
  | .console => true
  | .file _ => false

/-- Where the console gets JSON only, it gets what its own handlers write, in their order. What
other handlers note on the record before is of no account. -/
theorem console_deliver {hs : List Handler} (hjson : ∀ h ∈ hs, h.isConsole → h.formatter = .json)
    (r : Record) : (deliver hs r).1.console =
      (hs.filter isConsole).flatMap fun h => (h.emit r).1.console := by
  have hfold : ∀ (o : Output) (given : Record), r.bare = given.bare →
      (hs.foldl hand (o, given)).1.console =
      o.console ++ (hs.filter isConsole).flatMap fun h => (h.emit r).1.console := by
    induction hs with
    | nil => exact fun o _ _ => (List.append_nil _).symm
    | cons h hs ih =>
      intro o given hbare
      obtain ⟨hhead, hrest⟩ := List.forall_mem_cons.mp hjson
      have hadded : (o ++ (h.emit given).1).console = o.console ++ (h.emit given).1.console := rfl
      rw [List.foldl_cons, hand_mk, ih hrest _ _ (hbare.trans (h.bare_emit given).symm), hadded]
      obtain ⟨target, formatter⟩ := h
      cases target with
      | console =>
        obtain rfl : formatter = .json := hhead rfl
        have hsame : (emit ⟨.console, .json⟩ r).1 = (emit ⟨.console, .json⟩ given).1 :=
          emit_congr hbare (Formatter.writeJson_congr hbare)
        rw [← hsame, List.filter_cons_of_pos rfl, List.flatMap_cons, List.append_assoc]
      | file p =>
        obtain ⟨hsilent, -⟩ := emit_file p formatter given
        rw [List.filter_cons_of_neg Bool.false_ne_true, hsilent, List.append_nil]
  exact hfold .empty r rfl

theorem console_deliver_of_json {hs : List Handler} {r : Record} {line : Text}
    (hconsole : hs.filter isConsole = [⟨.console, .json⟩]) (hlevel : Level.unset ≤ r.level)
    (hline : (Formatter.json.format r).1 = .ok line) :
    (deliver hs r).1.console = line ++ [Formatter.newline] := by
  have hjson : ∀ h ∈ hs, h.isConsole → h.formatter = .json := by
    intro h hmem hcon
    have hfiltered : h ∈ hs.filter isConsole := List.mem_filter.mpr ⟨hmem, hcon⟩
    rw [hconsole] at hfiltered
    rw [List.mem_singleton.mp hfiltered]
  rw [console_deliver hjson, hconsole, List.flatMap_singleton]
  exact emit_console_ok hlevel hline

end Handler

/-- An origin as it is read back from JSON, where a pair of surrogates is one code point. -/
def Origin.joined (o : Origin) : Origin := { o with
  time := Json.joinPairs o.time
  moduleName := Json.joinPairs o.moduleName
  function := Json.joinPairs o.function }

/-! ### The event of a diagnostic -/

namespace Diagnostic

/-- The masked line of an index. -/
def snippet (xs : List Value) (i : Nat) : Text :=
  mask ((xs.take (lineStop xs i)).drop (lineStart xs i))

/-- The extra fields of a diagnostic. -/
def place (xs : List Value) (i : Nat) : List (Text × Value) :=
  [(text "source_line", .int (locate xs i).line), (text "column", .int (locate xs i).column),
    (text "index", .int i), (text "snippet", .text (snippet xs i))]

/-- The event of a display, with the place of its index. -/
def shown (level : Int) (display : Text) (xs : List Value) (i : Nat) : Event :=
  ⟨level, .text display, [], some (.dictionary (entries id (place xs i))), none⟩

section Events

variable {d : Diagnostic} {i : Nat} (hindex : d.index = i) (hi : i < d.sequence.elements.length)
include hindex hi

theorem location_eq : d.location = .ok (locate d.sequence.elements i) := by
  rw [location, hindex, indexIn_natCast hi]
  rfl

theorem fields_eq : d.fields (locate d.sequence.elements i) =
    .ok (.dictionary (entries id (place d.sequence.elements i))) := by
  obtain ⟨line, hline, helements⟩ := d.sequence.between_eq_ok
    (lineStart_le_lineStop d.sequence.elements i) (lineStop_le_length hi)
  rw [fields, hindex, indexIn_natCast hi]
  simp only [bind, Except.bind, hline, helements]
  rfl

theorem event_eq (level : Int) {display : Text}
    (hdisplay : pointAt d.sequence i (d.headline (locate d.sequence.elements i)) d.style =
      .ok display) :
    d.event level = .ok (shown level display d.sequence.elements i) := by
  rw [event, location_eq hindex hi]
  simp only [bind, Except.bind, hindex] at hdisplay ⊢
  rw [hdisplay, fields_eq hindex hi]
  rfl

end Events

theorem level_of_event {d : Diagnostic} {level : Int} {e : Event} (h : d.event level = .ok e) :
    e.level = level := by
  obtain ⟨l, -, h⟩ := bind_eq_ok_iff.mp h
  obtain ⟨display, -, h⟩ := bind_eq_ok_iff.mp h
  obtain ⟨fields, -, h⟩ := bind_eq_ok_iff.mp h
  cases h
  rfl

/-! ### The line of a diagnostic -/

/-- The members of a line that tells of a diagnostic. -/
def members (origin : Origin) (level logger display snippet : Text) (l : Location) (i : Nat) :
    List (Text × Json) :=
  [(text "timestamp", .text origin.time), (text "level", .text level),
    (text "logger", .text logger), (text "message", .text display),
    (text "module", .text origin.moduleName), (text "function", .text origin.function),
    (text "line", .int origin.line), (text "source_line", .int l.line),
    (text "column", .int l.column), (text "index", .int i), (text "snippet", .text snippet)]

theorem joinedMembers_members (origin : Origin) (level logger display snippet : Text)
    (l : Location) (i : Nat) :
    Json.joinedMembers (members origin level logger display snippet l i) =
      members origin.joined (Json.joinPairs level) (Json.joinPairs logger)
        (Json.joinPairs display) (Json.joinPairs snippet) l i := rfl

/-- The extra fields of a diagnostic beside the JSON values that carry them. -/
def placeRows (xs : List Value) (i : Nat) : List (Text × Json × Value) :=
  [(text "source_line", .int (locate xs i).line, .int (locate xs i).line),
    (text "column", .int (locate xs i).column, .int (locate xs i).column),
    (text "index", .int i, .int i), Formatter.textRow "snippet" (snippet xs i)]

theorem values_placeRows (xs : List Value) (i : Nat) :
    (placeRows xs i).map (fun row => (row.1, row.2.2)) =
      (place xs i).map fun e => (e.1, Formatter.maskedField e.2) := by
  have hsnippet : Formatter.maskedField (.text (snippet xs i)) = .text (snippet xs i) :=
    congrArg Value.text (mask_mask _)
  show _ = [_, _, _, (text "snippet", Formatter.maskedField (.text (snippet xs i)))]
  rw [hsnippet]
  rfl

theorem carries_placeRows (xs : List Value) (i : Nat) :
    ∀ row ∈ placeRows xs i, Json.Carries row.2.1 row.2.2 := by
  have htext : ∀ name t,
      Json.Carries (Formatter.textRow name t).2.1 (Formatter.textRow name t).2.2 :=
    fun _ t => .text t
  simp [placeRows, htext, Json.Carries.int]

/-- No member that every record has gets another value. -/
theorem writeJson_shown (origin : Origin) (logger : Text) (level : Int) (display : Text)
    (xs : List Value) (i : Nat) :
    Formatter.writeJson (Session.record origin logger (shown level display xs i)) =
      .ok (Json.object (members origin (Level.name level) (Loggers.shownName logger) display
        (snippet xs i) (locate xs i) i)).render := by
  have hnames : ((placeRows xs i).map Prod.fst).Nodup := by
    show ([text "source_line", text "column", text "index", text "snippet"] : List Text).Nodup
    decide
  have hnew : ∀ row ∈ placeRows xs i, row.1 ∉ ([text "timestamp", text "level", text "logger",
      text "message", text "module", text "function", text "line"] : List Text) := by
    simp only [placeRows, List.forall_mem_cons]
    refine ⟨by decide, by decide, by decide, ?_, nofun⟩
    show text "snippet" ∉ _
    decide
  have hwith := Formatter.withFields_rows (values_placeRows xs i)
    (Formatter.nodup_ownRows (Session.record origin logger (shown level display xs i)) display)
    hnames (.inr rfl)
  rw [Formatter.entries_ownRows, overridden_of_new hnew] at hwith
  refine (Formatter.writeJson_rows rfl hwith fun row hrow => ?_).trans rfl
  rcases List.mem_append.mp hrow with hrow | hrow
  · exact Formatter.carries_ownRows _ display row hrow
  · exact carries_placeRows xs i row hrow

theorem holdsDouble_members (origin : Origin) (level logger display snippet : Text) (l : Location)
    (i : Nat) : (Json.object (members origin level logger display snippet l i)).holdsDouble = false :=
  rfl

/-- A display is ASCII, its headline apart. -/
theorem exists_display {s : Sequence} {i : Nat} (hi : i < s.elements.length) {style : PointerStyle}
    {p : CodePoint} (hp : checkMark style.mark = .ok p) {headline : Text}
    (hform : ∀ c ∈ headline, c.isSurrogate = false) :
    ∃ display, pointAt s i (.text headline) style = .ok display ∧
      ∀ c ∈ display, c.isSurrogate = false := by
  have hfeed : ∀ c ∈ text "\n", c.isSurrogate = false := by decide
  have hrow : Json.Printed (style.row s.elements i) := fun _ hc => style.isPrint_of_mem_row _ _ hc
  have hpointer : Json.Printed (style.pointer p s.elements i) :=
    fun _ hc => style.isPrint_of_mem_pointer _ _ (isPrint_of_checkMark hp) hc
  have hheaded : ∀ c ∈ headed headline, c.isSurrogate = false := by
    unfold headed
    split
    · exact nofun
    · exact List.forall_mem_append.mpr ⟨hform, hfeed⟩
  refine ⟨_, pointAt_eq hi hp headline, ?_⟩
  simp only [List.forall_mem_append]
  exact ⟨hheaded, ⟨hrow.isSurrogate, hfeed⟩, hpointer.isSurrogate⟩

/-- The column finds the element of an index in the masked line. A break or the end marker stands
behind the line, the line feed of a pair by one place more. -/
structure Finds (xs : List Value) (i : Nat) (element : Value) (snippet : Text) (column : Nat) :
    Prop where
  lineStart_add : lineStart xs i + column = i + 1
  inside : column ≤ snippet.length → snippet[column - 1]? = some element.mask
  behind : snippet.length < column → column = snippet.length + if isPairTail xs i then 2 else 1

theorem finds_displayColumn {xs : List Value} {i : Nat} (hi : i < xs.length) :
    Finds xs i xs[i] (snippet xs i) (displayColumn xs i) := by
  have hcolumn := displayColumn_add_lineStart xs i
  have hstart := lineStart_le xs i
  have hstop := lineStart_le_lineStop xs i
  have hlength : (snippet xs i).length = lineStop xs i - lineStart xs i := by
    rw [snippet, length_mask, length_line hi]
  refine ⟨by omega, fun hinside => ?_, fun hbehind => ?_⟩
  · have hplace : lineStart xs i + (displayColumn xs i - 1) = i := by omega
    rw [snippet, mask, List.getElem?_map, List.getElem?_drop, hplace,
      List.getElem?_take_of_lt (by omega), List.getElem?_eq_getElem hi, Option.map_some]
  · have hle : lineStop xs i ≤ i := by omega
    have hend := lineStop_of_le hle
    split at hend
    · next htail =>
      rw [if_pos htail]
      omega
    · next htail =>
      rw [if_neg htail]
      omega

end Diagnostic

namespace Session

open Diagnostic

/-- A diagnostic whose level passes is logged like any other event. -/
theorem report_eq_pass {s : Session} {verdict : Verdict} {logger : Text} {d : Diagnostic}
    {l : Location} {e : Event} (hlocation : d.location = .ok l)
    (hevent : d.event verdict.level = .ok e) (hpass : (s.judge logger verdict.level).2 = true)
    (origin : Origin) : s.report origin verdict logger d =
      ((s.pass origin logger e).1, .ok (l, (s.pass origin logger e).2)) := by
  have hjudge : s.judge logger verdict.level = ((s.judge logger verdict.level).1, true) :=
    Prod.ext rfl hpass
  rw [report, hlocation, pass, level_of_event hevent]
  dsimp only
  rw [hjudge]
  dsimp only
  rw [hevent]

theorem report_of_passed {s : Session} {verdict : Verdict} {logger : Text} {d : Diagnostic}
    {l : Location} {e : Event} (hlocation : d.location = .ok l)
    (hevent : d.event verdict.level = .ok e) (hpass : (s.judge logger verdict.level).2 = true)
    (origin : Origin) : ∃ next, s.report origin verdict logger d =
      (next, .ok (l, (Handler.deliver s.handlers (record origin logger e)).1)) := by
  refine ⟨(s.pass origin logger e).1, ?_⟩
  rw [report_eq_pass hlocation hevent hpass, pass_of_passed]
  rw [level_of_event hevent]
  exact hpass

/-- **The line of a diagnostic finds its element.** Where JSON goes to the console and the logger
passes the level, an error or a success at an index inside its sequence gives the location of the
index and writes one line. What is read from the line is the location, the index, the masked line
and the display under the given message, percent signs and breaks of the message included, and every
member that all records have is as ever: the level, the logger, and where and when it was reported. -/
theorem report_finds_element {s : Session} {verdict : Verdict} {logger : Text} {d : Diagnostic}
    {i : Nat} {message : Text} {p : CodePoint} (origin : Origin)
    (hi : i < d.sequence.elements.length)
    (hindex : d.index = i) (hmessage : d.message = .text message)
    (hform : ∀ c ∈ message, c.isSurrogate = false) (hmark : checkMark d.style.mark = .ok p)
    (hconsole : s.handlers.filter Handler.isConsole = [⟨.console, .json⟩])
    (hpass : (s.judge logger verdict.level).2 = true) :
    ∃ next output line display,
      s.report origin verdict logger d = (next, .ok (locate d.sequence.elements i, output)) ∧
      output.console = line ++ [Formatter.newline] ∧ (∀ c ∈ line, c.isLineBreak = false) ∧
      pointAt d.sequence i
        (.text ((locate d.sequence.elements i).display ++ text ": " ++ message)) d.style =
          .ok display ∧
      Json.parse? line = some (.object (members origin.joined (Level.name verdict.level)
        (Json.joinPairs (Loggers.shownName logger)) display (snippet d.sequence.elements i)
        (locate d.sequence.elements i) i)) ∧
      Finds d.sequence.elements i d.sequence.elements[i] (snippet d.sequence.elements i)
        (displayColumn d.sequence.elements i) := by
  have hcolon : Json.Printed (text ": ") := by decide
  have hlocation := (locate d.sequence.elements i).printed_display.append hcolon
  obtain ⟨display, hdisplay, hdisplayed⟩ := exists_display hi hmark
    (List.forall_mem_append.mpr ⟨hlocation.isSurrogate, hform⟩)
  have hheadline : d.headline (locate d.sequence.elements i) =
      .text ((locate d.sequence.elements i).display ++ text ": " ++ message) := by
    rw [headline, hmessage]
    rfl
  have hevent := event_eq hindex hi verdict.level (hheadline ▸ hdisplay)
  obtain ⟨next, hreport⟩ := report_of_passed (location_eq hindex hi) hevent hpass origin
  have hline := writeJson_shown origin logger verdict.level display d.sequence.elements i
  have hlevel : Level.unset ≤ verdict.level := by
    cases verdict with
    | rejected => decide
    | accepted => decide
  refine ⟨next, _, _, display, hreport, Handler.console_deliver_of_json hconsole hlevel hline, ?_,
    hdisplay, ?_, finds_displayColumn hi⟩
  · exact (Json.printed_render _ (holdsDouble_members ..)).unbroken
  · have hpairs := Text.pairs_of_isSurrogate hdisplayed
    have hsnippet : (snippet d.sequence.elements i).pairs = 0 :=
      Text.pairs_of_printed fun _ hc => isPrint_of_mem_mask hc
    have hname : Json.joinPairs (Level.name verdict.level) = Level.name verdict.level := by
      cases verdict with
      | rejected => rfl
      | accepted => rfl
    rw [Json.parse?_render (holdsDouble_members ..)]
    show some (Json.object (Json.joinedMembers _)) = _
    rw [joinedMembers_members, Json.joinPairs_eq_self hpairs, Json.joinPairs_eq_self hsnippet, hname]

/-- The line feed of a pair, under a message with a percent sign and a break. -/
theorem report_finds_element_pair :
    let settings : LogSettings :=
      ⟨.text (text "INFO"), .text (text "json"), .text (text "app.log"), .bool true⟩
    let s := ((initial EnvFile.loader []).run [.setup default (some settings)]).1
    let d : Diagnostic :=
      ⟨.source (Source.ofCharacters (text "ab\r\ncd")), 3, .text (text "50%s\n"), .standard⟩
    let origin : Origin :=
      { time := text "2024-05-01 10:00:00,000", fileName := text "diagnostics.py"
        moduleName := text "diagnostics", function := text "_log_pointer", line := 163
        process := 1, processName := text "MainProcess"
        thread := 1, threadName := text "MainThread" }
    ∃ next output line display,
      s.report origin .rejected (text "app") d = (next, .ok (⟨1, 4⟩, output)) ∧
        output.console = line ++ [Formatter.newline] ∧
        Json.parse? line = some (.object
          (members origin (text "ERROR") (text "app") display (text "ab") ⟨1, 4⟩ 3)) ∧
        (4 : Nat) = (text "ab").length + 2 := by
  intro settings s d origin
  have hjson : settings.isJson = true := by decide +kernel
  have hhandlers : s.handlers = handlersFor settings settings.place? :=
    ((loggingTo_initial EnvFile.loader []).run [.setup default (some settings)]).handlers
  have hfilter : s.handlers.filter Handler.isConsole = [⟨.console, .json⟩] := by
    rw [hhandlers]
    show [(⟨.console, consoleFormatter settings⟩ : Handler)] = _
    rw [consoleFormatter, if_pos hjson]
  obtain ⟨next, output, line, display, hreport, hconsole, -, -, hread, hfinds⟩ :=
    @report_finds_element s .rejected (text "app") d 3 (text "50%s\n") (CodePoint.ofChar '^')
      origin (by decide) rfl rfl (by decide) rfl hfilter (by decide +kernel)
  exact ⟨next, output, line, display, hreport, hconsole, hread, hfinds.behind (by decide)⟩

end Session

end Caret

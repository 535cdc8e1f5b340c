import Caret.Proofs.JsonDiagnostics

/-!
# What a report comes to

A report finds the location of its index first, then asks whether its logger passes the level, and
makes a display only if it does. So an index outside the sequence is refused in every state of the
log, but a bad mark only where something would be written. Main statement: the outcomes of a report,
each with the condition under which it is met, and that a report which writes does what logging the
display with its place does.
-/

namespace Caret

namespace Diagnostic

theorem location_of_not_inside {d : Diagnostic} (h : ¬ Inside d.sequence.elements d.index) :
    d.location = .error (.outside d.index d.sequence.elements.length) := by
  rw [location, indexIn_of_not_inside h]
  rfl

section Events

variable {d : Diagnostic} {i : Nat} (hindex : d.index = i) (hi : i < d.sequence.elements.length)
include hindex hi

/-- The headline is a text, so that only the mark can keep an event from being made. -/
theorem event_of_not_visible (level : Int) (hmark : ¬ VisibleMark d.style.mark) :
    d.event level = .error (.badPointer d.style.mark) := by
  have hdisplay : ∀ headline,
      pointAt d.sequence d.index headline d.style = .error (.badPointer d.style.mark) :=
    fun headline => pointAt_eq_error_iff.mpr (.inl ⟨hmark, rfl⟩)
  rw [event, location_eq hindex hi]
  simp only [bind, Except.bind, hdisplay]

theorem event_of_visible (level : Int) (hmark : VisibleMark d.style.mark) :
    ∃ display,
      pointAt d.sequence d.index (d.headline (locate d.sequence.elements i)) d.style =
        .ok display ∧
      d.event level = .ok (shown level display d.sequence.elements i) := by
  obtain ⟨p, hp⟩ := hmark.exists_ok
  obtain ⟨display, hdisplay⟩ : ∃ display, pointAt d.sequence i
      (d.headline (locate d.sequence.elements i)) d.style = .ok display := ⟨_, pointAt_eq hi hp _⟩
  refine ⟨display, ?_, event_eq hindex hi level hdisplay⟩
  rw [hindex]
  exact hdisplay

end Events

end Diagnostic

namespace Session

open Diagnostic

/-! ### Outcomes of a report -/

section Reports

variable (s : Session) (origin : Origin) (verdict : Verdict) (logger : Text) {d : Diagnostic}

theorem report_of_not_inside (h : ¬ Inside d.sequence.elements d.index) :
    s.report origin verdict logger d =
      (s, .error (.outside d.index d.sequence.elements.length)) := by
  rw [report, location_of_not_inside h]

variable {i : Nat} (hindex : d.index = i) (hi : i < d.sequence.elements.length)
include hindex hi

/-- A report that nobody reads has no display, and its mark is not looked at. -/
theorem report_of_silent (hpass : (s.judge logger verdict.level).2 = false) :
    s.report origin verdict logger d =
      ((s.judge logger verdict.level).1, .ok (locate d.sequence.elements i, .empty)) := by
  have hjudge : s.judge logger verdict.level = ((s.judge logger verdict.level).1, false) :=
    Prod.ext rfl hpass
  rw [report, location_eq hindex hi]
  dsimp only
  rw [hjudge]

theorem report_of_not_visible (hpass : (s.judge logger verdict.level).2 = true)
    (hmark : ¬ VisibleMark d.style.mark) : s.report origin verdict logger d =
      ((s.judge logger verdict.level).1, .error (.badPointer d.style.mark)) := by
  have hjudge : s.judge logger verdict.level = ((s.judge logger verdict.level).1, true) :=
    Prod.ext rfl hpass
  rw [report, location_eq hindex hi]
  dsimp only
  rw [hjudge]
  dsimp only
  rw [event_of_not_visible hindex hi verdict.level hmark]

theorem report_of_visible (hpass : (s.judge logger verdict.level).2 = true)
    (hmark : VisibleMark d.style.mark) :
    ∃ display,
      pointAt d.sequence d.index (d.headline (locate d.sequence.elements i)) d.style =
        .ok display ∧
      s.report origin verdict logger d =
        ((s.pass origin logger (shown verdict.level display d.sequence.elements i)).1,
          .ok (locate d.sequence.elements i,
            (s.pass origin logger (shown verdict.level display d.sequence.elements i)).2)) := by
  obtain ⟨display, hdisplay, hevent⟩ := event_of_visible hindex hi verdict.level hmark
  exact ⟨display, hdisplay, report_eq_pass (location_eq hindex hi) hevent hpass origin⟩

end Reports

/-! ### Outcomes of a step -/

/-- The diagnostic that the parts of a step make. -/
def diagnostic (s : Session) (draft : DiagnosticDraft) : Except Fault Diagnostic :=
  (s.style draft.style).bind draft.make

/-- What a report comes to, as the reply of a step. -/
def replied : Session × Except Fault (Location × Output) → Session × Reply
  | (next, .ok (l, o)) => (next, ⟨.ok (.location l), o⟩)
  | (next, .error f) => (next, .quiet (.error f))

theorem step_report {s : Session} {draft : DiagnosticDraft} {d : Diagnostic}
    (h : s.diagnostic draft = .ok d) (origin : Origin) (verdict : Verdict) (logger : Text) :
    s.step (.report origin verdict logger draft) =
      replied ((s.ask logger).report origin verdict logger d) := by
  obtain ⟨style, hstyle, hmake⟩ := bind_eq_ok_iff.mp h
  rw [step, reportDraft, hstyle]
  dsimp only
  rw [hmake]
  rfl

/-- What a step that reports comes to: an index outside the sequence, a logger that is silent, a mark
that cannot be shown where the logger is not, or else a display that is logged. -/
inductive Outcome (s : Session) (origin : Origin) (verdict : Verdict) (logger : Text)
    (d : Diagnostic) : Session × Reply → Prop where
  | outside (hinside : ¬ Inside d.sequence.elements d.index) :
    Outcome s origin verdict logger d
      (s.ask logger, .quiet (.error (.outside d.index d.sequence.elements.length)))
  | silent (hinside : Inside d.sequence.elements d.index)
    (hpass : ((s.ask logger).judge logger verdict.level).2 = false) :
    Outcome s origin verdict logger d (((s.ask logger).judge logger verdict.level).1,
      .quiet (.ok (.location (locate d.sequence.elements d.index.toNat))))
  | refused (hinside : Inside d.sequence.elements d.index)
    (hpass : ((s.ask logger).judge logger verdict.level).2 = true)
    (hmark : ¬ VisibleMark d.style.mark) :
    Outcome s origin verdict logger d (((s.ask logger).judge logger verdict.level).1,
      .quiet (.error (.badPointer d.style.mark)))
  | written (hinside : Inside d.sequence.elements d.index)
    (hpass : ((s.ask logger).judge logger verdict.level).2 = true)
    (hmark : VisibleMark d.style.mark) {display : Text}
    (hdisplay : pointAt d.sequence d.index
      (d.headline (locate d.sequence.elements d.index.toNat)) d.style = .ok display)
    {e : Event} (he : e = shown verdict.level display d.sequence.elements d.index.toNat) :
    Outcome s origin verdict logger d ((s.log origin logger e).1,
      ⟨.ok (.location (locate d.sequence.elements d.index.toNat)), (s.log origin logger e).2⟩)

theorem outcome_of_report {s : Session} {draft : DiagnosticDraft} {d : Diagnostic}
    (h : s.diagnostic draft = .ok d) (origin : Origin) (verdict : Verdict) (logger : Text) :
    s.Outcome origin verdict logger d (s.step (.report origin verdict logger draft)) := by
  rw [step_report h]
  by_cases hinside : Inside d.sequence.elements d.index
  · obtain ⟨i, hindex, hi⟩ := hinside.exists_nat
    have hnat : d.index.toNat = i := by omega
    cases hpass : ((s.ask logger).judge logger verdict.level).2 with
    | false =>
      rw [report_of_silent _ origin verdict logger hindex hi hpass, ← hnat]
      exact .silent hinside hpass
    | true =>
      by_cases hmark : VisibleMark d.style.mark
      · obtain ⟨display, hdisplay, hreport⟩ :=
          report_of_visible (s.ask logger) origin verdict logger hindex hi hpass hmark
        rw [hreport]
        rw [← hnat] at hdisplay ⊢
        exact .written hinside hpass hmark hdisplay rfl
      · rw [report_of_not_visible _ origin verdict logger hindex hi hpass hmark]
        exact .refused hinside hpass hmark
  · rw [report_of_not_inside _ origin verdict logger hinside]
    exact .outside hinside

/-- The reply is a fault of some kind. -/
def Reply.HasKind (r : Reply) (kind : FaultKind) : Prop := ∃ f, r.result = .error f ∧ f.kind = kind

/-- **The outcomes of a report.** In every state of the log, for any logger, sequence, index, message
and style, an index outside the sequence is refused as an index, whether or not the logger passes the
level and whatever the mark is. A mark that takes no visible column is refused, as a value, only
where the logger passes the level. Any other report gives the location of its index. Nothing is
written unless a display is; and then the step does what logging the display from the same place and
at the same time, under its location and the message and with its place for extra fields, does
through every handler. -/
theorem report_outcome {s : Session} {draft : DiagnosticDraft} {d : Diagnostic}
    (h : s.diagnostic draft = .ok d) (origin : Origin) (verdict : Verdict) (logger : Text) :
    let xs := d.sequence.elements
    let l := locate xs d.index.toNat
    let enabled := ((s.ask logger).judge logger verdict.level).2
    let written := Inside xs d.index ∧ enabled = true ∧ VisibleMark d.style.mark
    let next := (s.step (.report origin verdict logger draft)).1
    let reply := (s.step (.report origin verdict logger draft)).2
    (reply.result = .error (.outside d.index xs.length) ↔ ¬ Inside xs d.index) ∧
    (reply.HasKind .index ↔ ¬ Inside xs d.index) ∧
    (reply.result = .error (.badPointer d.style.mark) ↔
      Inside xs d.index ∧ enabled = true ∧ ¬ VisibleMark d.style.mark) ∧
    (reply.HasKind .value ↔ Inside xs d.index ∧ enabled = true ∧ ¬ VisibleMark d.style.mark) ∧
    (reply.result = .ok (.location l) ↔
      Inside xs d.index ∧ (enabled = true → VisibleMark d.style.mark)) ∧
    (¬ written → reply.output = .empty ∧ next.files = s.files) ∧
    (written → ∃ display,
      pointAt d.sequence d.index (.text (l.display ++ text ": " ++ d.message.display)) d.style =
        .ok display ∧
      let e := shown verdict.level display xs d.index.toNat
      next = (s.step (.log origin logger e)).1 ∧
        reply.output = (s.step (.log origin logger e)).2.output ∧
        reply.output = (Handler.deliver s.handlers (record origin logger e)).1) := by
  intro xs l enabled written
  have houtcome := outcome_of_report h origin verdict logger
  generalize s.step (.report origin verdict logger draft) = result at houtcome ⊢
  cases houtcome with
  | outside hinside =>
    simp [hinside, written, xs, Reply.quiet, Reply.HasKind, Fault.kind, ask]
  | silent hinside hpass =>
    simp [hinside, hpass, written, enabled, l, xs, Reply.quiet, Reply.HasKind, judge_eq, ask]
  | refused hinside hpass hmark =>
    simp [hinside, hpass, hmark, written, enabled, xs, Reply.quiet, Reply.HasKind, Fault.kind,
      judge_eq, ask]
  | written hinside hpass hmark hdisplay he =>
    subst he
    have hkind : ∀ o kind, ¬ Reply.HasKind ⟨.ok (.location l), o⟩ kind := by
      simp [Reply.HasKind]
    refine ⟨?_, ?_, ?_, ?_, ?_, fun hnot => absurd ⟨hinside, hpass, hmark⟩ hnot, fun _ => ?_⟩
    · simp [hinside, xs]
    · simp [hinside, xs, hkind, l]
    · simp [hmark]
    · simp [hmark, hkind, l, xs]
    · simp [hinside, hmark, l, xs]
    · exact ⟨_, hdisplay, rfl, rfl, log_of_passed hpass origin⟩

/-- A logger that is silent takes a bad mark without a word, and another one refuses it. -/
theorem report_outcome_silenced :
    let s := ((initial EnvFile.loader []).run [.setLevel (text "app") Level.critical]).1
    let mark : Value := .text (text "^^")
    let draft : DiagnosticDraft :=
      ⟨.ok (.text (text "ab")), 1, .ok (.text (text "odd")), .given (.ok ⟨mark, .bool true⟩)⟩
    let reply (logger : Text) : Reply := (s.step (.report default .rejected logger draft)).2
    (reply (text "app")).result = .ok (.location ⟨1, 2⟩) ∧
      (reply (text "app")).output = .empty ∧
      (reply (text "lib")).result = .error (.badPointer mark) := by
  intro s mark draft reply
  let d : Diagnostic := ⟨.text (text "ab"), 1, .text (text "odd"), ⟨mark, .bool true⟩⟩
  have hmade : s.diagnostic draft = .ok d := rfl
  have hinside : Inside d.sequence.elements d.index := by decide
  have hmark : ¬ VisibleMark mark := by decide
  have hsilent : ((s.ask (text "app")).judge (text "app") Verdict.rejected.level).2 ≠ true := by
    decide +kernel
  have hheard : ((s.ask (text "lib")).judge (text "lib") Verdict.rejected.level).2 = true := by
    decide +kernel
  obtain ⟨-, -, -, -, hlocated, hquiet, -⟩ := report_outcome hmade default .rejected (text "app")
  obtain ⟨-, -, hrefused, -⟩ := report_outcome hmade default .rejected (text "lib")
  exact ⟨hlocated.mpr ⟨hinside, fun hpass => absurd hpass hsilent⟩,
    (hquiet fun hwritten => hsilent hwritten.2.1).1, hrefused.mpr ⟨hinside, hheard, hmark⟩⟩

end Session

end Caret

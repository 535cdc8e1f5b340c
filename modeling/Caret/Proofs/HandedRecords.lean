import Caret.Proofs.RecordNotes
import Caret.Session.Step

/-!
# Records that are handed over

What becomes of a record. Which one a step hands to the handlers is settled by the loggers alone,
and so the step ends in `conclude`, whatever the handlers and the files are; a load hands over one
record after the other. The handlers of a setup then write a record as it was handed to the first of
them, one to the console and one to the file.
-/

namespace Caret

/-! ### Handlers -/

namespace Handler

theorem put_file (p : Place) {line : Text} (hform : line.any CodePoint.isSurrogate = false) :
    (Target.file p).put (.ok line) = ⟨[], [(p, line ++ [Formatter.newline])]⟩ := by
  rw [Target.put, hform]
  rfl

/-- A formatter that fails writes nothing anywhere, and any other one its line. -/
theorem emit_cases (f : Formatter) (r : Record) :
    (∀ target, (emit ⟨target, f⟩ r).1 = .empty) ∨
      ∃ line, (f.format r).1 = .ok line ∧
        ∀ target, (emit ⟨target, f⟩ r).1 = target.put (.ok line) := by
  by_cases hlevel : r.level < Level.unset
  · refine .inl fun target => ?_
    rw [emit, if_pos hlevel]
  · have hemit : ∀ target, (emit ⟨target, f⟩ r).1 = target.put (f.format r).1 := fun target => by
      rw [emit, if_neg hlevel]
    cases hline : (f.format r).1 with
    | error e => exact .inl fun target => by rw [hemit, hline]; cases target <;> rfl
    | ok line => exact .inr ⟨line, rfl, fun target => by rw [hemit, hline]⟩

theorem emit_console (f : Formatter) (r : Record) :
    (emit ⟨.console, f⟩ r).1.files = [] ∧ ((emit ⟨.console, f⟩ r).1.console = [] ∨
      ∃ line, (f.format r).1 = .ok line ∧
        (emit ⟨.console, f⟩ r).1.console = line ++ [Formatter.newline]) := by
  rcases emit_cases f r with hnone | ⟨line, hline, hemit⟩
  · rw [hnone]
    exact ⟨rfl, .inl rfl⟩
  · rw [hemit]
    exact ⟨rfl, .inr ⟨line, hline, rfl⟩⟩

theorem emit_file (p : Place) (f : Formatter) (r : Record) :
    (emit ⟨.file p, f⟩ r).1.console = [] ∧ ((emit ⟨.file p, f⟩ r).1.files = [] ∨
      ∃ line, (f.format r).1 = .ok line ∧
        (emit ⟨.file p, f⟩ r).1.files = [(p, line ++ [Formatter.newline])]) := by
  rcases emit_cases f r with hnone | ⟨line, hline, hemit⟩
  · rw [hnone]
    exact ⟨rfl, .inl rfl⟩
  · rw [hemit, Target.put]
    split
    · exact ⟨rfl, .inl rfl⟩
    · exact ⟨rfl, .inr ⟨line, hline, rfl⟩⟩

/-- A formatter writes the same to a file as to the console, if the file can hold it. -/
theorem emit_alike (p : Place) (f : Formatter) (r : Record)
    (hform : ∀ c ∈ (emit ⟨.console, f⟩ r).1.console, c.isSurrogate = false) :
    (emit ⟨.file p, f⟩ r).1.files = [(p, (emit ⟨.console, f⟩ r).1.console)] ∨
      (emit ⟨.file p, f⟩ r).1.files = [] ∧ (emit ⟨.console, f⟩ r).1.console = [] := by
  rcases emit_cases f r with hnone | ⟨line, -, hemit⟩
  · rw [hnone, hnone]
    exact .inr ⟨rfl, rfl⟩
  · rw [hemit] at hform ⊢
    have hline : line.any CodePoint.isSurrogate = false :=
      List.any_eq_false.mpr fun c hc =>
        Bool.eq_false_iff.mp (hform c (List.mem_append_left _ hc))
    rw [hemit, put_file p hline]
    exact .inl rfl

theorem emit_of_level {h : Handler} {r : Record} (hlevel : Level.unset ≤ r.level) :
    (h.emit r).1 = h.target.put (h.formatter.format r).1 := by
  rw [emit, if_neg (Int.not_lt.mpr hlevel)]

theorem emit_console_ok {f : Formatter} {r : Record} {line : Text} (hlevel : Level.unset ≤ r.level)
    (hline : (f.format r).1 = .ok line) :
    (emit ⟨.console, f⟩ r).1.console = line ++ [Formatter.newline] := by
  rw [emit_of_level hlevel, hline, Target.put]

theorem emit_file_ok {f : Formatter} {r : Record} {line : Text} (hlevel : Level.unset ≤ r.level)
    (hline : (f.format r).1 = .ok line) (hform : line.any CodePoint.isSurrogate = false)
    (p : Place) : (emit ⟨.file p, f⟩ r).1.files = [(p, line ++ [Formatter.newline])] := by
  rw [emit_of_level hlevel, hline, put_file p hform]

end Handler

namespace Session

open Handler

theorem standard_handlersFor (ls : LogSettings) (file : Option Place) :
    ∀ h ∈ handlersFor ls file, h.formatter.Standard := by
  have hconsole : (consoleFormatter ls).Standard := by
    unfold consoleFormatter
    split
    · trivial
    · split <;> rfl
  have hfile : (fileFormatter ls).Standard := by
    unfold fileFormatter
    split
    · trivial
    · rfl
  cases file with
  | none => simpa [handlersFor] using hconsole
  | some p => simpa [handlersFor] using And.intro hconsole hfile

/-- The console handler writes to the console only, and the file handler to its file only, and each
of them writes of a sound record what it would write if it were alone. -/
theorem deliver_handlersFor (ls : LogSettings) (file : Option Place) {r : Record} (hr : r.Sound) :
    (deliver (handlersFor ls file) r).1.console =
        (emit ⟨.console, consoleFormatter ls⟩ r).1.console ∧
      (deliver (handlersFor ls file) r).1.files =
        (file.map fun p => (emit ⟨.file p, fileFormatter ls⟩ r).1.files).getD [] := by
  obtain ⟨hcfiles, -⟩ := emit_console (consoleFormatter ls) r
  rw [deliver_of_standard (standard_handlersFor ls file) hr]
  cases file with
  | none =>
    show [] ++ (emit ⟨.console, consoleFormatter ls⟩ r).1.console = _ ∧
      (emit ⟨.console, consoleFormatter ls⟩ r).1.files.foldl _ [] = []
    rw [hcfiles]
    exact ⟨rfl, rfl⟩
  | some p =>
    obtain ⟨hfconsole, hffiles⟩ := emit_file p (fileFormatter ls) r
    show ([] ++ (emit ⟨.console, consoleFormatter ls⟩ r).1.console) ++
        (emit ⟨.file p, fileFormatter ls⟩ r).1.console = _ ∧
      (emit ⟨.file p, fileFormatter ls⟩ r).1.files.foldl _
        ((emit ⟨.console, consoleFormatter ls⟩ r).1.files.foldl _ []) =
        (emit ⟨.file p, fileFormatter ls⟩ r).1.files
    rw [hfconsole, hcfiles, List.append_nil]
    refine ⟨rfl, ?_⟩
    rcases hffiles with hnone | ⟨line, -, hline⟩
    · rw [hnone]
      rfl
    · rw [hline]
      rfl

/-! ### Steps that log -/

/-- Remembers the verdicts of the loggers and hands over a record, if there is one. -/
def conclude (s : Session) (loggers : Loggers) : Option Record → Session × Output
  | none => ({ s with loggers := loggers }, .empty)
  | some r => Session.write { s with loggers := loggers } r

@[simp] theorem conclude_handlers (s : Session) (loggers : Loggers) (r : Option Record) :
    (s.conclude loggers r).1.handlers = s.handlers := by cases r <;> rfl

@[simp] theorem conclude_files (s : Session) (loggers : Loggers) (r : Option Record) :
    (s.conclude loggers r).1.files = (s.conclude loggers r).2.applyTo s.files := by
  cases r <;> rfl

theorem judge_eq (s : Session) (logger : Text) (level : Int) :
    s.judge logger level = ({ s with loggers := (s.loggers.judge logger level).1 },
      (s.loggers.judge logger level).2) := rfl

theorem sound_record (origin : Origin) (logger : Text) (e : Event) :
    (record origin logger e).Sound := Record.sound_ofEvent _ _ _

theorem sound_none : ∀ r ∈ (none : Option Record), r.Sound :=
  fun _ h => absurd h (Option.not_mem_none _)

theorem sound_of_given {origin : Origin} {logger : Text} {e : Event} {given : Option Record}
    (h : given = none ∨ given = some (record origin logger e)) : ∀ r ∈ given, r.Sound := by
  rcases h with rfl | rfl
  · exact sound_none
  · rintro _ ⟨⟩
    exact sound_record origin logger e

theorem exists_pass (l : Loggers) (origin : Origin) (logger : Text) (e : Event) :
    ∃ loggers r, (r = none ∨ r = some (record origin logger e)) ∧
      ∀ s : Session, s.loggers = l → s.pass origin logger e = s.conclude loggers r := by
  cases hjudge : l.judge logger e.level with
  | mk loggers passed =>
    cases passed with
    | true =>
      refine ⟨loggers, some (record origin logger e), .inr rfl, ?_⟩
      rintro s rfl
      rw [pass, judge_eq, hjudge]
      rfl
    | false =>
      refine ⟨loggers, none, .inl rfl, ?_⟩
      rintro s rfl
      rw [pass, judge_eq, hjudge]
      rfl

/-- What a logger passes is handed over. -/
theorem pass_of_passed {s : Session} {logger : Text} {e : Event}
    (h : (s.judge logger e.level).2 = true) (origin : Origin) :
    (s.pass origin logger e).2 = (deliver s.handlers (record origin logger e)).1 := by
  rw [judge_eq] at h
  rw [pass, judge_eq, h]
  rfl

theorem log_of_passed {s : Session} {logger : Text} {e : Event}
    (h : ((s.ask logger).judge logger e.level).2 = true) (origin : Origin) :
    (s.log origin logger e).2 = (deliver s.handlers (record origin logger e)).1 :=
  pass_of_passed h origin

@[simp] theorem ask_conclude (s : Session) (logger : Text) (loggers : Loggers)
    (r : Option Record) : (s.ask logger).conclude loggers r = s.conclude loggers r := by
  cases r <;> rfl

/-- What logging hands over depends on the loggers alone. -/
theorem exists_log (l : Loggers) (origin : Origin) (logger : Text) (e : Event) :
    ∃ loggers r, (r = none ∨ r = some (record origin logger e)) ∧
      ∀ s : Session, s.loggers = l → s.log origin logger e = s.conclude loggers r := by
  obtain ⟨loggers, r, hr, hpass⟩ := exists_pass (l.ensure logger) origin logger e
  refine ⟨loggers, r, hr, ?_⟩
  rintro s rfl
  rw [log, hpass (s.ask logger) rfl, ask_conclude]

/-- What reporting hands over, and whether it fails, depends on the loggers alone. -/
theorem exists_report (l : Loggers) (origin : Origin) (verdict : Verdict) (logger : Text)
    (d : Diagnostic) :
    ∃ loggers r, ∃ result : Except Fault Location, (∀ given ∈ r, given.Sound) ∧
      (result.isOk = false → r = none) ∧
      ∀ s : Session, s.loggers = l → s.report origin verdict logger d =
        ((s.conclude loggers r).1, result.map (·, (s.conclude loggers r).2)) := by
  cases hlocation : d.location with
  | error f =>
    refine ⟨l, none, .error f, sound_none, fun _ => rfl, ?_⟩
    rintro s rfl
    rw [report, hlocation]
    rfl
  | ok location =>
    cases hjudge : l.judge logger verdict.level with
    | mk loggers passed =>
      cases passed with
      | false =>
        refine ⟨loggers, none, .ok location, sound_none, fun _ => rfl, ?_⟩
        rintro s rfl
        rw [report, hlocation, judge_eq, hjudge]
        rfl
      | true =>
        cases hevent : d.event verdict.level with
        | error f =>
          refine ⟨loggers, none, .error f, sound_none, fun _ => rfl, ?_⟩
          rintro s rfl
          rw [report, hlocation, judge_eq, hjudge, hevent]
          rfl
        | ok e =>
          refine ⟨loggers, some (record origin logger e), .ok location, sound_of_given (.inr rfl),
            by rintro ⟨⟩, ?_⟩
          rintro s rfl
          rw [report, hlocation, judge_eq, hjudge]
          dsimp only
          rw [hevent]
          rfl

/-- What a report step does depends on the loggers and the chosen style alone. -/
theorem exists_reportDraft (l : Loggers) (style : Except Fault (Except Fault PointerStyle))
    (origin : Origin) (verdict : Verdict) (logger : Text) (draft : DiagnosticDraft) :
    ∃ loggers r result, (∀ given ∈ r, given.Sound) ∧
      ∀ s : Session, s.loggers = l → s.style draft.style = style →
        s.reportDraft origin verdict logger draft =
          ((s.conclude loggers r).1, ⟨result, (s.conclude loggers r).2⟩) := by
  cases style with
  | error f =>
    refine ⟨l, none, .error f, sound_none, ?_⟩
    rintro s rfl hstyle
    rw [reportDraft, hstyle]
    rfl
  | ok style =>
    cases hmake : draft.make style with
    | error f =>
      refine ⟨l.ensure logger, none, .error f, sound_none, ?_⟩
      rintro s rfl hstyle
      rw [reportDraft, hstyle]
      dsimp only
      rw [hmake]
      rfl
    | ok d =>
      obtain ⟨loggers, r, result, hsound, hquiet, hreport⟩ :=
        exists_report (l.ensure logger) origin verdict logger d
      refine ⟨loggers, r, result.map .location, hsound, ?_⟩
      rintro s rfl hstyle
      rw [reportDraft, hstyle]
      dsimp only
      rw [hmake]
      dsimp only
      rw [hreport (s.ask logger) rfl, ask_conclude]
      cases result with
      | error f =>
        rw [hquiet rfl]
        rfl
      | ok location => rfl

/-- The step logs an event or a diagnostic. -/
def Step.Logs : Step → Prop
  | .log .. | .report .. => True
  | _ => False

/-- What a step that logs does depends on the loggers and the styles to choose from alone. -/
theorem exists_conclude (s : Session) {a : Step} (ha : a.Logs) :
    ∃ loggers r result, (∀ given ∈ r, given.Sound) ∧
      ∀ other : Session, other.loggers = s.loggers → other.style = s.style →
        other.step a =
          ((other.conclude loggers r).1, ⟨result, (other.conclude loggers r).2⟩) := by
  cases a with
  | log origin logger e =>
    obtain ⟨loggers, r, hr, hlog⟩ := exists_log s.loggers origin logger e
    refine ⟨loggers, r, .ok .done, sound_of_given hr, fun other hloggers _ => ?_⟩
    rw [step, hlog other hloggers]
  | report origin verdict logger draft =>
    obtain ⟨loggers, r, result, hsound, hreport⟩ :=
      exists_reportDraft s.loggers (s.style draft.style) origin verdict logger draft
    refine ⟨loggers, r, result, hsound, fun other hloggers hstyle => ?_⟩
    rw [step, hreport other hloggers (congrFun hstyle _)]
  | _ => cases ha

/-! ### Loads -/

/-- Logging events changes nothing but the files and the loggers. -/
theorem exists_logAll (s : Session) (events : List Logged) :
    ∃ files loggers, (s.logAll events).1 = { s with files := files, loggers := loggers } := by
  induction events generalizing s with
  | nil => exact ⟨s.files, s.loggers, rfl⟩
  | cons a events ih =>
    obtain ⟨files, loggers, hrest⟩ := ih (s.log a.origin a.logger a.event).1
    refine ⟨files, loggers, hrest.trans ?_⟩
    obtain ⟨_, given, -, hlog⟩ := exists_log s.loggers a.origin a.logger a.event
    rw [hlog s rfl]
    cases given <;> rfl

theorem load_eq (s : Session) (path : Text) : s.load path =
    ({ (s.filled path).1 with
      settings := (s.settingsAfter path).toOption.or (s.filled path).1.settings },
      s.settingsAfter path, (s.filled path).2) := by
  unfold load
  cases s.settingsAfter path <;> rfl

/-- A load changes the environment and, if it is not refused, the settings; what it logs changes
files and loggers. -/
theorem exists_load (s : Session) (path : Text) :
    ∃ files loggers, (s.load path).1 = { s with
      environment := (s.fill path).environment
      files := files
      settings := (s.settingsAfter path).toOption.or s.settings
      loggers := loggers } := by
  obtain ⟨files, loggers, hfilled⟩ := exists_logAll
    { s with environment := (s.fill path).environment } (s.fill path).events
  refine ⟨files, loggers, ?_⟩
  rw [load_eq, filled, hfilled]

end Session

end Caret

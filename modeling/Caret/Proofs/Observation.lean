import Caret.EnvFile.Load
import Caret.Proofs.FileShapes
import Caret.Proofs.HandedRecords
import Caret.Proofs.HiddenLoggers
import Caret.Session.Step

/-!
# Logging only observes

Two sessions agree if they have the same environment, settings and handlers, if the same files stand
in both, and if their loggers differ by hidden ones alone. Every step but a load, which reads what
files hold, gives the same reply in both, and they go on to agree. Main statement: steps that only
observe can be left out of a run without loads, and no other step gives another reply. Steps that log
observe if the name of their logger is steady; other names are told apart by who was asked for first.
-/

namespace Caret.Session

open Loggers (isSteady isRoot)

/-- Nothing tells two sessions apart but what files hold and loggers that are hidden. -/
structure Agree (s t : Session) : Prop where
  loader : s.loader = t.loader
  environment : s.environment = t.environment
  settings : s.settings = t.settings
  handlers : s.handlers = t.handlers
  files : s.files.SameShape t.files
  loggers : s.loggers.Hides t.loggers

theorem Agree.refl {s : Session} (h : s.loggers.Hides s.loggers) : Agree s s :=
  ⟨rfl, rfl, rfl, rfl, .refl s.files, h⟩

theorem knows_ensure_self (l : Loggers) (name : Text) :
    isRoot name = true ∨ (l.ensure name).Knows name := by
  by_cases hroot : isRoot name = true
  · exact .inl hroot
  · exact .inr ((Loggers.knows_ensure l name name).mpr (.inr ⟨rfl, Bool.eq_false_iff.mpr hroot⟩))

namespace Agree

variable {s t : Session} (h : Agree s t)
include h

/-! ### Records -/

theorem write (r : Record) : (s.write r).2 = (t.write r).2 ∧ Agree (s.write r).1 (t.write r).1 := by
  have houtput : (s.write r).2 = (t.write r).2 := by
    rw [Session.write, Session.write, h.handlers]
  refine ⟨houtput, { h with files := ?_ }⟩
  have hleft := FileSystem.sameShape_applyTo (Handler.deliver s.handlers r).1 s.files
  have hright := FileSystem.sameShape_applyTo (Handler.deliver t.handlers r).1 t.files
  exact hleft.symm.trans (h.files.trans hright)

theorem write_left (r : Record) : Agree (s.write r).1 t := by
  refine { h with files := ?_ }
  have hleft := FileSystem.sameShape_applyTo (Handler.deliver s.handlers r).1 s.files
  exact hleft.symm.trans h.files

theorem ask (logger : Text) : Agree (s.ask logger) (t.ask logger) :=
  { h with loggers := h.loggers.ensure logger }

theorem ask_left {logger : Text} (hsteady : isSteady logger = true) : Agree (s.ask logger) t :=
  { h with loggers := h.loggers.ensure_left hsteady }

section Judge

variable {logger : Text} (level : Int)

theorem judge (hknown : isRoot logger = true ∨ t.loggers.Knows logger) :
    (s.judge logger level).2 = (t.judge logger level).2 ∧
      Agree (s.judge logger level).1 (t.judge logger level).1 :=
  ⟨h.loggers.verdict_judge hknown level, { h with loggers := h.loggers.judge hknown level }⟩

theorem judge_left (hsteady : isSteady logger = true)
    (hknown : isRoot logger = true ∨ s.loggers.Knows logger) :
    Agree (s.judge logger level).1 t :=
  { h with loggers := h.loggers.judge_left hsteady hknown level }

end Judge

/-! ### Events -/

theorem log (origin : Origin) (logger : Text) (e : Event) :
    (s.log origin logger e).2 = (t.log origin logger e).2 ∧
      Agree (s.log origin logger e).1 (t.log origin logger e).1 := by
  obtain ⟨hpassed, hjudged⟩ := (h.ask logger).judge e.level (knows_ensure_self t.loggers logger)
  unfold Session.log pass
  cases hs : (s.ask logger).judge logger e.level with
  | mk judged passed =>
    cases ht : (t.ask logger).judge logger e.level with
    | mk judged' passed' =>
      rw [hs, ht] at hpassed hjudged
      obtain rfl : passed = passed' := hpassed
      cases passed with
      | false => exact ⟨rfl, hjudged⟩
      | true => exact hjudged.write (record origin logger e)

theorem log_left {logger : Text} (hsteady : isSteady logger = true) (origin : Origin) (e : Event) :
    Agree (s.log origin logger e).1 t := by
  have hjudged := (h.ask_left hsteady).judge_left e.level hsteady
    (knows_ensure_self s.loggers logger)
  unfold Session.log pass
  cases hs : (s.ask logger).judge logger e.level with
  | mk judged passed =>
    rw [hs] at hjudged
    cases passed with
    | false => exact hjudged
    | true => exact hjudged.write_left (record origin logger e)

/-! ### Diagnostics -/

theorem style (choice : StyleChoice) : s.style choice = t.style choice := by
  cases choice with
  | given style => rfl
  | loaded => rw [Session.style, Session.style, loaded, loaded, h.settings]

theorem report (origin : Origin) (verdict : Verdict) {logger : Text} (d : Diagnostic)
    (hknown : isRoot logger = true ∨ t.loggers.Knows logger) :
    (s.report origin verdict logger d).2 = (t.report origin verdict logger d).2 ∧
      Agree (s.report origin verdict logger d).1 (t.report origin verdict logger d).1 := by
  obtain ⟨hpassed, hjudged⟩ := h.judge verdict.level hknown
  unfold Session.report
  cases d.location with
  | error f => exact ⟨rfl, h⟩
  | ok l =>
    dsimp only
    cases hs : s.judge logger verdict.level with
    | mk judged passed =>
      cases ht : t.judge logger verdict.level with
      | mk judged' passed' =>
        rw [hs, ht] at hpassed hjudged
        obtain rfl : passed = passed' := hpassed
        cases passed with
        | false => exact ⟨rfl, hjudged⟩
        | true =>
          dsimp only at hjudged ⊢
          cases d.event verdict.level with
          | error f => exact ⟨rfl, hjudged⟩
          | ok e =>
            obtain ⟨houtput, hwritten⟩ := hjudged.write (record origin logger e)
            exact ⟨congrArg (fun o => Except.ok (l, o)) houtput, hwritten⟩

theorem report_left (origin : Origin) (verdict : Verdict) {logger : Text} (d : Diagnostic)
    (hsteady : isSteady logger = true) (hknown : isRoot logger = true ∨ s.loggers.Knows logger) :
    Agree (s.report origin verdict logger d).1 t := by
  have hjudged := h.judge_left verdict.level hsteady hknown
  unfold Session.report
  cases d.location with
  | error f => exact h
  | ok l =>
    dsimp only
    cases hs : s.judge logger verdict.level with
    | mk judged passed =>
      rw [hs] at hjudged
      cases passed with
      | false => exact hjudged
      | true =>
        dsimp only at hjudged ⊢
        cases d.event verdict.level with
        | error f => exact hjudged
        | ok e => exact hjudged.write_left (record origin logger e)

theorem reportDraft (origin : Origin) (verdict : Verdict) (logger : Text)
    (draft : DiagnosticDraft) :
    (s.reportDraft origin verdict logger draft).2 =
        (t.reportDraft origin verdict logger draft).2 ∧
      Agree (s.reportDraft origin verdict logger draft).1
        (t.reportDraft origin verdict logger draft).1 := by
  unfold Session.reportDraft
  rw [h.style]
  cases t.style draft.style with
  | error f => exact ⟨rfl, h⟩
  | ok style =>
    dsimp only
    cases draft.make style with
    | error f => exact ⟨rfl, h.ask logger⟩
    | ok d =>
      obtain ⟨hresult, hreported⟩ :=
        (h.ask logger).report origin verdict d (knows_ensure_self t.loggers logger)
      dsimp only
      cases hs : (s.ask logger).report origin verdict logger d with
      | mk next result =>
        cases ht : (t.ask logger).report origin verdict logger d with
        | mk next' result' =>
          rw [hs, ht] at hresult hreported
          obtain rfl : result = result' := hresult
          cases result with
          | error f => exact ⟨rfl, hreported⟩
          | ok lo => exact ⟨rfl, hreported⟩

theorem reportDraft_left (origin : Origin) (verdict : Verdict) {logger : Text}
    (hsteady : isSteady logger = true) (draft : DiagnosticDraft) :
    Agree (s.reportDraft origin verdict logger draft).1 t := by
  unfold Session.reportDraft
  cases s.style draft.style with
  | error f => exact h
  | ok style =>
    dsimp only
    cases draft.make style with
    | error f => exact h.ask_left hsteady
    | ok d =>
      have hreported := (h.ask_left hsteady).report_left origin verdict d hsteady
        (knows_ensure_self s.loggers logger)
      dsimp only
      cases hs : (s.ask logger).report origin verdict logger d with
      | mk next result =>
        rw [hs] at hreported
        cases result with
        | error f => exact hreported
        | ok lo => exact hreported

/-! ### Setups -/

theorem openLog (path : Option Text) :
    FileSystem.Match (Session.openLog s.files path) (Session.openLog t.files path) := by
  cases path with
  | none => exact ⟨h.files, rfl⟩
  | some path =>
    obtain ⟨hopened, hresult⟩ := h.files.openFile path
    unfold Session.openLog
    dsimp only
    cases hs : s.files.openFile path with
    | mk opened result =>
      cases ht : t.files.openFile path with
      | mk opened' result' =>
        rw [hs, ht] at hopened hresult
        obtain rfl : result = result' := hresult
        cases result with
        | error f => exact ⟨hopened, rfl⟩
        | ok p =>
          refine ⟨hopened, ?_⟩
          dsimp only
          rw [h.files.isFile]

theorem install (origin : Origin) (ls : LogSettings) (file : Option Place) :
    (s.install origin ls file).2 = (t.install origin ls file).2 ∧
      Agree (s.install origin ls file).1 (t.install origin ls file).1 := by
  have hready : Agree
      { s with
        handlers := handlersFor ls file, loggers := s.loggers.setRoot (Level.ofName ls.levelName) }
      { t with
        handlers := handlersFor ls file, loggers := t.loggers.setRoot (Level.ofName ls.levelName) } :=
    { h with handlers := rfl, loggers := h.loggers.setRoot _ }
  unfold Session.install
  split
  · exact ⟨rfl, hready⟩
  · exact hready.log origin libraryLogger (levelWarning ls)

theorem setup (origin : Origin) (ls : LogSettings) :
    (s.setup origin ls).2 = (t.setup origin ls).2 ∧
      Agree (s.setup origin ls).1 (t.setup origin ls).1 := by
  unfold Session.setup
  cases logPath ls with
  | error f => exact ⟨rfl, h⟩
  | ok path =>
    obtain ⟨hopened, hresult⟩ := h.openLog path
    dsimp only
    cases hs : Session.openLog s.files path with
    | mk files result =>
      cases ht : Session.openLog t.files path with
      | mk files' result' =>
        rw [hs, ht] at hopened hresult
        obtain rfl : result = result' := hresult
        have hnext : Agree { s with files := files } { t with files := files' } :=
          { h with files := hopened }
        cases result with
        | error f => exact ⟨rfl, hnext⟩
        | ok made =>
          obtain ⟨hwarned, hready⟩ := hnext.install origin ls made.1
          exact ⟨congrArg (fun o => Except.ok (made.2 ++ o)) hwarned, hready⟩

/-! ### Steps -/

theorem setupStep (origin : Origin) (choice : Option LogSettings) :
    (s.step (.setup origin choice)).2 = (t.step (.setup origin choice)).2 ∧
      Agree (s.step (.setup origin choice)).1 (t.step (.setup origin choice)).1 := by
  have hchoice : s.logSettings choice = t.logSettings choice := by
    cases choice with
    | some ls => rfl
    | none => rw [logSettings, logSettings, loaded, loaded, h.settings]
  rw [step, step, hchoice]
  cases t.logSettings choice with
  | error f => exact ⟨rfl, h⟩
  | ok ls =>
    obtain ⟨hresult, hready⟩ := h.setup origin ls
    dsimp only
    cases hs : s.setup origin ls with
    | mk next result =>
      cases ht : t.setup origin ls with
      | mk next' result' =>
        rw [hs, ht] at hresult hready
        obtain rfl : result = result' := hresult
        cases result with
        | error f => exact ⟨rfl, hready⟩
        | ok o =>
          refine ⟨?_, hready⟩
          dsimp only at hready ⊢
          rw [hready.loggers.root, hready.handlers]

end Agree

/-- The step reads what a file holds. -/
def Step.Loads : Step → Prop
  | .load _ => True
  | _ => False

/-- The step can be seen to change nothing: it asks, or it logs through a logger with a steady name. -/
def Step.Observes : Step → Prop
  | .failed _ | .environment | .validate | .pointer _ => True
  | .log _ logger _ | .report _ _ logger _ => isSteady logger = true
  | _ => False

namespace Agree

variable {s t : Session} (h : Agree s t)
include h

/-- A step that is taken in both sessions gives the same reply in both. -/
theorem step {a : Step} (ha : ¬a.Loads) :
    (s.step a).2 = (t.step a).2 ∧ Agree (s.step a).1 (t.step a).1 := by
  have hloaded : s.loaded = t.loaded := by rw [loaded, loaded, h.settings]
  cases a with
  | failed f => exact ⟨rfl, h⟩
  | write path content =>
    obtain ⟨hfiles, hresult⟩ := h.files.write path content
    refine ⟨?_, { h with files := hfiles }⟩
    rw [Session.step, Session.step]
    dsimp only
    rw [hresult]
  | load path => exact absurd trivial ha
  | environment =>
    refine ⟨?_, h⟩
    rw [Session.step, Session.step, h.environment]
  | setVariable name value =>
    rw [Session.step, Session.step, h.environment]
    cases t.environment.change name value with
    | ok env => exact ⟨rfl, { h with environment := rfl }⟩
    | error f => exact ⟨rfl, h⟩
  | assign field value =>
    rw [Session.step, Session.step, h.settings]
    cases hsettings : t.settings with
    | none => exact ⟨rfl, h⟩
    | some v => exact ⟨rfl, { h with settings := rfl }⟩
  | validate =>
    refine ⟨?_, h⟩
    rw [Session.step, Session.step, hloaded]
  | setup origin choice => exact h.setupStep origin choice
  | log origin logger e =>
    obtain ⟨houtput, hlogged⟩ := h.log origin logger e
    exact ⟨congrArg (Reply.mk (.ok .done)) houtput, hlogged⟩
  | report origin verdict logger draft => exact h.reportDraft origin verdict logger draft
  | pointer draft =>
    refine ⟨?_, h⟩
    rw [Session.step, Session.step, pointerDraft, pointerDraft, h.style]
  | setLevel logger level =>
    have hlevels := (h.loggers.ensure logger).setLevel (knows_ensure_self t.loggers logger) level
    exact ⟨rfl, { h with loggers := hlevels }⟩
  | disable level => exact ⟨rfl, { h with loggers := h.loggers.disable level }⟩

/-- A step that observes may be taken in one session alone. -/
theorem step_left {a : Step} (ha : a.Observes) : Agree (s.step a).1 t := by
  cases a with
  | failed f => exact h
  | environment => exact h
  | validate => exact h
  | pointer draft => exact h
  | log origin logger e => exact h.log_left ha origin e
  | report origin verdict logger draft => exact h.reportDraft_left origin verdict ha draft
  | _ => cases ha

end Agree

/-! ### Runs -/

/-- What is left of a list when the marked elements are taken out. -/
def left {α : Type} : List Bool → List α → List α
  | [], xs => xs
  | _ :: _, [] => []
  | true :: marks, _ :: xs => left marks xs
  | false :: marks, x :: xs => x :: left marks xs

theorem left_nil {α : Type} (xs : List α) : left [] xs = xs := by cases xs <;> rfl

theorem run_cons (s : Session) (a : Step) (steps : List Step) :
    (s.run (a :: steps)).2 = (s.step a).2 :: ((s.step a).1.run steps).2 := rfl

/-- The replies to the steps that are left are the ones that they have in the whole run. -/
theorem Agree.run_left {s t : Session} (h : Agree s t) {steps : List Step}
    (hloads : ∀ a ∈ steps, ¬a.Loads) {marks : List Bool}
    (hmarks : ∀ m ∈ marks.zip steps, m.1 = true → m.2.Observes) :
    (t.run (left marks steps)).2 = left marks (s.run steps).2 := by
  induction steps generalizing s t marks with
  | nil => cases marks <;> rfl
  | cons a steps ih =>
    obtain ⟨ha, hsteps⟩ := List.forall_mem_cons.mp hloads
    obtain ⟨hreply, hnext⟩ := h.step ha
    cases marks with
    | nil =>
      have hrest := @ih _ _ hnext hsteps [] (by simp)
      rw [left_nil, left_nil] at hrest
      rw [left_nil, left_nil, run_cons, run_cons, hreply, hrest]
    | cons mark marks =>
      rw [List.zip_cons_cons] at hmarks
      obtain ⟨hmark, hothers⟩ := List.forall_mem_cons.mp hmarks
      cases mark with
      | true =>
        rw [run_cons, left, left]
        exact ih (h.step_left (hmark rfl)) hsteps hothers
      | false =>
        rw [run_cons, left, left, run_cons, hreply, ih hnext hsteps hothers]

/-- Verdicts on steady names stay settled, whatever is logged. -/
theorem hides_logAll (s : Session) (h : s.loggers.Hides s.loggers) (events : List Logged) :
    (s.logAll events).1.loggers.Hides (s.logAll events).1.loggers := by
  induction events generalizing s with
  | nil => exact h
  | cons a events ih =>
    exact ih _ ((Agree.refl h).log a.origin a.logger a.event).2.loggers

/-- In every state of a run the verdicts on steady names are settled, and the tree is grown. -/
theorem hides_run (s : Session) (h : s.loggers.Hides s.loggers) (steps : List Step) :
    (s.run steps).1.loggers.Hides (s.run steps).1.loggers := by
  induction steps generalizing s with
  | nil => exact h
  | cons a steps ih =>
    refine ih (s.step a).1 ?_
    by_cases ha : a.Loads
    · cases a with
      | load path =>
        have hsame : (s.step (.load path)).1.loggers = (s.filled path).1.loggers :=
          congrArg (fun x => x.1.loggers) (s.load_eq path)
        rw [hsame]
        exact hides_logAll { s with environment := (s.fill path).environment } h
          (s.fill path).events
      | _ => cases ha
    · exact ((Agree.refl h).step ha).2.loggers

/-- **Logging only observes.** From every state of a run, steps that ask, or that log through a logger
with a steady name, can be taken out of a run without loads, whether they fail, write or do not: the
replies to the other steps stay as they are, with all that they write to the console and to files. -/
theorem logging_only_observes (loader : Loader) (env : Environment) (before : List Step)
    {steps : List Step}
    (hloads : ∀ a ∈ steps, ¬a.Loads) {marks : List Bool}
    (hmarks : ∀ m ∈ marks.zip steps, m.1 = true → m.2.Observes) :
    let s := ((initial loader env).run before).1
    (s.run (left marks steps)).2 = left marks (s.run steps).2 := by
  intro s
  have hstart : (initial loader env).loggers.Hides (initial loader env).loggers :=
    .refl Loggers.grown_initial (Loggers.settled_of_forgotten rfl)
  exact (Agree.refl (hides_run (initial loader env) hstart before)).run_left hloads hmarks

/-- A diagnostic outside its sequence and a message that cannot be expanded are taken out. -/
theorem logging_only_observes_failed :
    let settings : LogSettings := ⟨.text (text "INFO"), .text (text "text"), .null, .bool false⟩
    let log (level : Int) (message : String) (arguments : List Value) : Step :=
      .log default (text "app.part") ⟨level, .text (text message), arguments, none, none⟩
    let outside : Step := .report default .rejected (text "app.part")
      ⟨.ok (.text (text "ab")), 7, .ok (.text (text "refused")), .given (.ok .standard)⟩
    let steps : List Step := [outside, .setLevel (text "app") Level.debug,
      log Level.error "%d" [.null], log Level.debug "kept" []]
    let s := ((initial EnvFile.loader []).run [.setup default (some settings)]).1
    (s.run [.setLevel (text "app") Level.debug, log Level.debug "kept" []]).2 =
      left [true, false, true, false] (s.run steps).2 := by
  intro settings log outside steps s
  have hloads : ∀ a ∈ steps, ¬a.Loads := by simp [steps, outside, log, Step.Loads]
  have hsteady : isSteady (text "app.part") = true := by decide
  have hmarks : ∀ m ∈ [true, false, true, false].zip steps, m.1 = true → m.2.Observes := by
    simp [steps, outside, log, Step.Observes, hsteady]
  have hleft := logging_only_observes EnvFile.loader [] [.setup default (some settings)] hloads hmarks
  exact hleft

/-- Logging through a logger whose name is not steady is seen by later steps: where the name of the
root begins with its first part, where it ends in a dot, and where it has two dots in a row. -/
theorem logging_seen_through_other_names :
    let settings : LogSettings := ⟨.text (text "INFO"), .text (text "text"), .null, .bool false⟩
    let log (level : Int) (logger : Text) : Step :=
      .log default logger ⟨level, .text (text "message"), [], none, none⟩
    let s := ((initial EnvFile.loader []).run [.setup default (some settings)]).1
    let reached (name : Text) : List Step :=
      [log Level.debug (name ++ text ".part"), .setLevel name Level.debug,
        log Level.debug (name ++ text ".part")]
    let trailing : List Step := [.setLevel (text "a") Level.debug, log Level.debug (text "a."),
      log Level.debug (text "a..b")]
    let doubled : List Step := [.setLevel (text "zq") Level.debug, log Level.debug (text "zq..w"),
      log Level.warning (text "zq."), log Level.debug (text "zq..w")]
    (∀ name ∈ [text "r", text "ro", text "roo"],
      (s.run (left [true] (reached name))).2 ≠ left [true] (s.run (reached name)).2) ∧
    (s.run (left [false, true] trailing)).2 ≠ left [false, true] (s.run trailing).2 ∧
    (s.run (left [false, true] doubled)).2 ≠ left [false, true] (s.run doubled).2 := by
  intro settings log s reached trailing doubled
  have hne : ∀ {replies replies' : List Reply},
      replies.map (·.output.console) ≠ replies'.map (·.output.console) → replies ≠ replies' :=
    fun hconsoles heq => hconsoles (congrArg (List.map _) heq)
  refine ⟨?_, hne (by decide +kernel), hne (by decide +kernel)⟩
  intro name hname
  simp only [List.mem_cons, List.not_mem_nil, or_false] at hname
  rcases hname with rfl | rfl | rfl
  · exact hne (by decide +kernel)
  · exact hne (by decide +kernel)
  · exact hne (by decide +kernel)

end Caret.Session

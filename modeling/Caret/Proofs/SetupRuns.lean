import Caret.EnvFile.Load
import Caret.Proofs.FileTrees
import Caret.Proofs.HandedRecords

/-!
# Setups in a run

The handlers of a session are those of the last setup that did not fail, however many setups and
other steps came before it. A setup that fails changes no file, no handler and no level. Main
statement: in every state of a run, a record is written at most once to the console and at most once
to the file of the last setup, and to no other file.
-/

namespace Caret

/-- The place of the log file that settings ask for, if any. -/
def LogSettings.place? (ls : LogSettings) : Option Place :=
  (Session.logPath ls).toOption.join.map fun t => .ofPath (.parse t)

theorem LogSettings.proper_place? {ls : LogSettings} {p : Place} (h : ls.place? = some p) :
    p.Proper := by
  obtain ⟨t, -, rfl⟩ := Option.map_eq_some_iff.mp h
  exact Place.proper_ofPath t

namespace Session

open Handler

variable {s : Session} {ls : LogSettings} {origin : Origin}

/-! ### The settings in force -/

/-- The settings that a step installs, if it is a setup that does not fail. -/
def installed? (s : Session) : Step → Option LogSettings
  | .setup origin choice =>
    if (s.step (.setup origin choice)).2.result.isOk then (s.logSettings choice).toOption else none
  | _ => none

/-- The settings of the last setup among some steps that does not fail, or else those in force
before them. -/
def lastInstalled (before : Option LogSettings) (s : Session) : List Step → Option LogSettings
  | [] => before
  | a :: steps => lastInstalled ((s.installed? a).or before) (s.step a).1 steps

theorem lastInstalled_concat (before : Option LogSettings) (s : Session) (steps : List Step)
    (a : Step) : s.lastInstalled before (steps ++ [a]) =
      ((s.run steps).1.installed? a).or (s.lastInstalled before steps) := by
  induction steps generalizing before s with
  | nil => rfl
  | cons b steps ih => exact ih _ _

def handlersOf : Option LogSettings → List Handler
  | none => []
  | some ls => handlersFor ls ls.place?

/-! ### What one record leaves behind -/

/-- One record has been written at most once to the console and at most once to the file of the
settings in force, and to no other file. -/
structure WrittenOnce (settings : Option LogSettings) (r : Record) (o : Output) : Prop where
  console : o.console = [] ∨ ∃ ls line, settings = some ls ∧
    ((consoleFormatter ls).format r).1 = .ok line ∧ o.console = line ++ [Formatter.newline]
  files : o.files = [] ∨ ∃ ls p t, settings = some ls ∧ ls.place? = some p ∧ o.files = [(p, t)] ∧
    (t = [] ∨ ∃ line, ((fileFormatter ls).format r).1 = .ok line ∧
      t = line ++ [Formatter.newline])

theorem writtenOnce_empty (settings : Option LogSettings) (r : Record) :
    WrittenOnce settings r .empty := ⟨.inl rfl, .inl rfl⟩

theorem writtenOnce_deliver (settings : Option LogSettings) {r : Record} (hr : r.Sound) :
    WrittenOnce settings r (deliver (handlersOf settings) r).1 := by
  cases settings with
  | none => exact writtenOnce_empty none r
  | some ls =>
    obtain ⟨hconsole, hfiles⟩ := deliver_handlersFor ls ls.place? hr
    constructor
    · rw [handlersOf, hconsole]
      exact (emit_console (consoleFormatter ls) r).2.imp id fun ⟨line, hline, heq⟩ =>
        ⟨ls, line, rfl, hline, heq⟩
    · rw [handlersOf, hfiles]
      cases hplace : ls.place? with
      | none => exact .inl rfl
      | some p =>
        exact (emit_file p (fileFormatter ls) r).2.imp id fun ⟨line, hline, heq⟩ =>
          ⟨ls, p, _, rfl, hplace, heq, .inr ⟨line, hline, rfl⟩⟩

theorem writtenOnce_conclude {settings : Option LogSettings}
    (h : s.handlers = handlersOf settings) (loggers : Loggers) {r : Record} (hr : r.Sound)
    {given : Option Record} (hgiven : given = none ∨ given = some r) :
    WrittenOnce settings r (s.conclude loggers given).2 := by
  rcases hgiven with rfl | rfl
  · exact writtenOnce_empty settings r
  · show WrittenOnce settings r (deliver s.handlers r).1
    rw [h]
    exact writtenOnce_deliver settings hr

theorem writtenOnce_log {settings : Option LogSettings} (h : s.handlers = handlersOf settings)
    (origin : Origin) (logger : Text) (e : Event) :
    WrittenOnce settings (record origin logger e) (s.log origin logger e).2 := by
  obtain ⟨loggers, given, hgiven, hlog⟩ := exists_log s.loggers origin logger e
  rw [hlog s rfl]
  exact writtenOnce_conclude h loggers (sound_record origin logger e) hgiven

/-- Records have been written one after the other, each of them once. -/
inductive WrittenEach (settings : Option LogSettings) : List Record → Output → Prop
  | none : WrittenEach settings [] .empty
  | next {r : Record} {o : Output} {rs : List Record} {more : Output} :
    WrittenOnce settings r o → WrittenEach settings rs more →
      WrittenEach settings (r :: rs) (o ++ more)

/-- Opening the log file writes nothing to it, but a new file counts as output. -/
def Opening (ls : LogSettings) (o : Output) : Prop :=
  o = .empty ∨ ∃ p, ls.place? = some p ∧ o = ⟨[], [(p, [])]⟩

theorem WrittenOnce.afterOpening {r : Record} {before o : Output} (hbefore : Opening ls before)
    (h : WrittenOnce (some ls) r o) : WrittenOnce (some ls) r (before ++ o) := by
  have hfiles : (before ++ o).files = o.files.foldl (fun acc e => Output.addTo e.1 e.2 acc)
    before.files := rfl
  rcases hbefore with rfl | ⟨p, hp, rfl⟩
  · refine ⟨h.console, ?_⟩
    rw [hfiles]
    rcases h.files with hnone | ⟨ls', p, t, hls, hp, hone, ht⟩
    · rw [hnone]
      exact .inl rfl
    · rw [hone]
      exact .inr ⟨ls', p, t, hls, hp, rfl, ht⟩
  · refine ⟨h.console, .inr ?_⟩
    rw [hfiles]
    rcases h.files with hnone | ⟨_, p', t, ⟨⟩, hp', hone, ht⟩
    · rw [hnone]
      exact ⟨ls, p, [], rfl, hp, rfl, .inl rfl⟩
    · obtain rfl : p = p' := Option.some.inj (hp.symm.trans hp')
      refine ⟨ls, p, t, rfl, hp, ?_, ht⟩
      rw [hone, List.foldl_cons, List.foldl_nil, Output.addTo, if_pos rfl, List.nil_append]

/-- A record that goes to no more than one file changes no other one. -/
theorem WrittenOnce.content?_of_ne {settings : Option LogSettings} {r : Record} {o : Output}
    (h : WrittenOnce settings r o) {p : Place} (hp : p.Proper)
    (hne : ∀ ls, settings = some ls → ls.place? ≠ some p) (fs : FileSystem) :
    (o.applyTo fs).content? p = fs.content? p := by
  unfold Output.applyTo
  rcases h.files with hnone | ⟨ls, q, t, rfl, hq, hone, -⟩
  · rw [hnone]
    rfl
  · rw [hone]
    exact FileSystem.content?_append_of_ne (LogSettings.proper_place? hq) hp
      (fun heq => hne ls rfl (heq ▸ hq)) t

/-! ### Setting up -/

theorem grounded_applyTo (o : Output) {fs : FileSystem} (hg : fs.Grounded) :
    (o.applyTo fs).Grounded := by
  unfold Output.applyTo
  induction o.files generalizing fs with
  | nil => exact hg
  | cons e es ih => exact ih (hg.append e.1 e.2)

theorem logPath_ok {path : Option Text} (h : logPath ls = .ok path) :
    path.isSome = ls.file.truthy ∧ ls.place? = path.map fun t => .ofPath (.parse t) := by
  refine ⟨?_, by rw [LogSettings.place?, h]; rfl⟩
  unfold logPath at h
  by_cases htruthy : ls.file.truthy = true
  · rw [if_pos htruthy] at h
    split at h
    · cases h
      exact htruthy.symm
    · cases h
  · rw [if_neg htruthy] at h
    cases h
    exact (Bool.eq_false_iff.mpr htruthy).symm

/-- **A setup that fails changes no file, no handler and no level.** -/
theorem setup_error (hg : s.files.Grounded) {next : Session} {f : Fault}
    (h : s.setup origin ls = (next, .error f)) :
    ∃ files, s.files.SameFiles files ∧ next = { s with files := files } := by
  unfold setup at h
  split at h
  · cases h
    exact ⟨s.files, .refl _, rfl⟩
  · next path hpath =>
    dsimp only at h
    split at h
    · next hopened =>
      cases h
      refine ⟨(openLog s.files path).1, ?_, rfl⟩
      cases path with
      | none => cases hopened
      | some t =>
        unfold openLog at hopened ⊢
        dsimp only at hopened ⊢
        split
        · next made _ hopen => exact hg.openFile_error hopen
        · next opened p hopen =>
          rw [hopen] at hopened
          cases hopened
    · cases h

theorem openLog_ok {fs opened : FileSystem} {path : Option Text} {file : Option Place} {o : Output}
    (h : openLog fs path = (opened, .ok (file, o))) :
    file = path.map (fun t => .ofPath (.parse t)) ∧
      (o = .empty ∨ ∃ p, file = some p ∧ o = ⟨[], [(p, [])]⟩) := by
  cases path with
  | none =>
    cases h
    exact ⟨rfl, .inl rfl⟩
  | some t =>
    unfold openLog at h
    dsimp only at h
    split at h
    · cases h
    · next opened' p hopen =>
      cases h
      obtain ⟨rfl, -⟩ := FileSystem.openFile_ok hopen
      refine ⟨rfl, ?_⟩
      split
      · exact .inl rfl
      · exact .inr ⟨_, rfl, rfl⟩

theorem grounded_openLog {fs : FileSystem} (hg : fs.Grounded) (path : Option Text) :
    (openLog fs path).1.Grounded := by
  cases path with
  | none => exact hg
  | some t =>
    have hopened := hg.openFile t
    unfold openLog
    dsimp only
    split
    · next hopen => rwa [hopen] at hopened
    · next hopen => rwa [hopen] at hopened

/-- What a setup has opened, which may be a new file, before it installs the settings. -/
structure Opened (s : Session) (ls : LogSettings) (files : FileSystem) (o : Output) : Prop where
  named : ls.place?.isSome = ls.file.truthy
  grounded : s.files.Grounded → files.Grounded
  output : Opening ls o

/-- A setup that does not fail opens its file and installs its settings. -/
theorem setup_eq_ok {next : Session} {o : Output} (h : s.setup origin ls = (next, .ok o)) :
    ∃ files opened, Opened s ls files opened ∧
      next = (install { s with files := files } origin ls ls.place?).1 ∧
      o = opened ++ (install { s with files := files } origin ls ls.place?).2 := by
  unfold setup at h
  split at h
  · cases h
  · next path hpath =>
    obtain ⟨hnamed, hplace⟩ := logPath_ok hpath
    dsimp only at h
    split at h
    · cases h
    · next file opened hopened =>
      cases h
      obtain ⟨rfl, houtput⟩ := openLog_ok (Prod.ext rfl hopened)
      rw [← hplace] at houtput ⊢
      refine ⟨(openLog s.files path).1, opened, ⟨?_, ?_, houtput⟩, rfl, rfl⟩
      · rw [hplace, Option.isSome_map, hnamed]
      · exact fun hg => grounded_openLog hg path

theorem install_spec (s : Session) (hg : s.files.Grounded) (origin : Origin) (ls : LogSettings) :
    (s.install origin ls ls.place?).1.handlers = handlersFor ls ls.place? ∧
      (s.install origin ls ls.place?).1.files.Grounded ∧
      ∃ r, WrittenOnce (some ls) r (s.install origin ls ls.place?).2 := by
  unfold install
  dsimp only
  split
  · exact ⟨rfl, hg, record origin libraryLogger (levelWarning ls), writtenOnce_empty _ _⟩
  · obtain ⟨loggers, given, hgiven, hlog⟩ := exists_log
      (s.loggers.setRoot (Level.ofName ls.levelName)) origin libraryLogger (levelWarning ls)
    rw [hlog _ rfl, conclude_handlers, conclude_files]
    exact ⟨rfl, grounded_applyTo _ hg, _, writtenOnce_conclude rfl loggers
      (sound_record origin libraryLogger (levelWarning ls)) hgiven⟩

theorem setup_ok (hg : s.files.Grounded) {next : Session} {o : Output}
    (h : s.setup origin ls = (next, .ok o)) :
    ls.place?.isSome = ls.file.truthy ∧ next.handlers = handlersFor ls ls.place? ∧
      next.files.Grounded ∧ ∃ r, WrittenOnce (some ls) r o := by
  obtain ⟨files, opened, hopened, rfl, rfl⟩ := setup_eq_ok h
  obtain ⟨hhandlers, hfiles, r, hwritten⟩ :=
    install_spec { s with files := files } (hopened.grounded hg) origin ls
  exact ⟨hopened.named, hhandlers, hfiles, r, hwritten.afterOpening hopened.output⟩

/-! ### Runs -/

theorem Step.Logs.ne_load {a : Step} (ha : a.Logs) (path : Text) : a ≠ .load path := by
  rintro rfl
  cases ha

/-- A step that logs changes files only by what it writes. -/
theorem files_of_logs {a : Step} (ha : a.Logs) :
    (s.step a).1.files = (s.step a).2.output.applyTo s.files := by
  obtain ⟨loggers, given, result, -, hstep⟩ := exists_conclude s ha
  rw [hstep s rfl rfl]
  exact conclude_files s loggers given

theorem installed?_of_logs {a : Step} (ha : a.Logs) : s.installed? a = none := by
  cases a with
  | log origin logger e => rfl
  | report origin verdict logger draft => rfl
  | _ => cases ha

/-- The handlers of a session are those of the settings in force. -/
structure LoggingTo (settings : Option LogSettings) (s : Session) : Prop where
  handlers : s.handlers = handlersOf settings
  named : ∀ ls ∈ settings, ls.place?.isSome = ls.file.truthy
  grounded : s.files.Grounded

theorem loggingTo_initial (loader : Loader) (env : Environment) :
    LoggingTo none (initial loader env) where
  handlers := rfl
  named := by simp
  grounded rooted ups := by
    cases hbranch : (Place.base rooted ups).branch <;> rfl

namespace LoggingTo

variable {settings : Option LogSettings}

/-- A step that keeps the handlers and hands over at most one record keeps the settings in force. -/
theorem conclude (h : LoggingTo settings s) (loggers : Loggers) {given : Option Record}
    (hsound : ∀ r ∈ given, r.Sound) :
    LoggingTo settings (s.conclude loggers given).1 ∧
      ∃ r, WrittenOnce settings r (s.conclude loggers given).2 := by
  constructor
  · exact ⟨(conclude_handlers s loggers given).trans h.handlers, h.named,
      conclude_files s loggers given ▸ grounded_applyTo _ h.grounded⟩
  · cases given with
    | none => exact ⟨record default libraryLogger (levelWarning .standard), writtenOnce_empty _ _⟩
    | some r => exact ⟨r, writtenOnce_conclude h.handlers loggers (hsound r rfl) (.inr rfl)⟩

/-- A step without output that changes neither the handlers nor a file at a place without a name. -/
theorem quiet (h : LoggingTo settings s) {next : Session} (result : Except Fault Answer)
    (hhandlers : next.handlers = s.handlers) (hgrounded : next.files.Grounded) :
    LoggingTo settings next ∧ ∃ r, WrittenOnce settings r (Reply.quiet result).output :=
  ⟨⟨hhandlers.trans h.handlers, h.named, hgrounded⟩,
    record default libraryLogger (levelWarning .standard), writtenOnce_empty _ _⟩

theorem setup (h : LoggingTo settings s) (origin : Origin) (choice : Option LogSettings) :
    LoggingTo ((s.installed? (.setup origin choice)).or settings)
        (s.step (.setup origin choice)).1 ∧
      ∃ r, WrittenOnce ((s.installed? (.setup origin choice)).or settings) r
        (s.step (.setup origin choice)).2.output := by
  cases hls : s.logSettings choice with
  | error f =>
    have hstep : s.step (.setup origin choice) = (s, .quiet (.error f)) := by
      rw [Session.step, hls]
    rw [installed?, hstep]
    exact h.quiet _ rfl h.grounded
  | ok ls =>
    cases hsetup : s.setup origin ls with
    | mk next result =>
      cases result with
      | error f =>
        have hstep : s.step (.setup origin choice) = (next, .quiet (.error f)) := by
          simp only [Session.step, hls, hsetup]
        obtain ⟨files, hsame, rfl⟩ := setup_error h.grounded hsetup
        rw [installed?, hstep]
        exact h.quiet _ rfl (hsame.grounded h.grounded)
      | ok o =>
        have hstep : s.step (.setup origin choice) =
            (next, ⟨.ok (.installed next.loggers.root next.handlers), o⟩) := by
          simp only [Session.step, hls, hsetup]
        obtain ⟨hnamed, hhandlers, hgrounded, r, hwritten⟩ := setup_ok h.grounded hsetup
        rw [installed?, hstep, hls]
        exact ⟨⟨hhandlers, fun _ hls => Option.some.inj hls ▸ hnamed, hgrounded⟩, r, hwritten⟩

/-- What a step other than a load does to the settings in force, and what it writes. -/
theorem step_of_not_load (h : LoggingTo settings s) {a : Step} (ha : ∀ path, a ≠ .load path) :
    LoggingTo ((s.installed? a).or settings) (s.step a).1 ∧
      ∃ r, WrittenOnce ((s.installed? a).or settings) r (s.step a).2.output := by
  cases a with
  | setup origin choice => exact h.setup origin choice
  | log origin logger e =>
    obtain ⟨loggers, given, result, hsound, hstep⟩ :=
      exists_conclude s (a := .log origin logger e) trivial
    rw [hstep s rfl rfl]
    exact h.conclude loggers hsound
  | report origin verdict logger draft =>
    obtain ⟨loggers, given, result, hsound, hstep⟩ :=
      exists_conclude s (a := .report origin verdict logger draft) trivial
    rw [hstep s rfl rfl]
    exact h.conclude loggers hsound
  | load path => exact absurd rfl (ha path)
  | failed f => exact h.quiet _ rfl h.grounded
  | write path content => exact h.quiet _ rfl (h.grounded.write path content)
  | environment => exact h.quiet _ rfl h.grounded
  | setVariable name value =>
    rw [Session.step]
    split
    · exact h.quiet _ rfl h.grounded
    · exact h.quiet _ rfl h.grounded
  | assign field value =>
    rw [Session.step]
    split
    · exact h.quiet _ rfl h.grounded
    · exact h.quiet _ rfl h.grounded
  | validate => exact h.quiet _ rfl h.grounded
  | pointer draft => exact h.quiet _ rfl h.grounded
  | setLevel logger level => exact h.quiet _ rfl h.grounded
  | disable level => exact h.quiet _ rfl h.grounded

/-- What a loader has logged is written like any other event. -/
theorem logAll (h : LoggingTo settings s) (events : List Logged) :
    LoggingTo settings (s.logAll events).1 ∧
      WrittenEach settings (events.map fun a => record a.origin a.logger a.event)
        (s.logAll events).2 := by
  induction events generalizing s with
  | nil => exact ⟨h, .none⟩
  | cons a events ih =>
    have hlogs : (Step.log a.origin a.logger a.event).Logs := trivial
    have hstep := h.step_of_not_load hlogs.ne_load
    obtain ⟨hlast, hmore⟩ := ih hstep.1
    exact ⟨hlast, .next (writtenOnce_log h.handlers a.origin a.logger a.event) hmore⟩

theorem load (h : LoggingTo settings s) (path : Text) :
    LoggingTo settings (s.load path).1 ∧
      WrittenEach settings ((s.fill path).events.map fun a => record a.origin a.logger a.event)
        (s.step (.load path)).2.output := by
  have hfilled : LoggingTo settings { s with environment := (s.fill path).environment } :=
    ⟨h.handlers, h.named, h.grounded⟩
  obtain ⟨hlast, hwritten⟩ := hfilled.logAll (s.fill path).events
  have hload : (s.step (.load path)).2.output = (s.filled path).2 := by
    rw [Session.step, load_eq]
  rw [hload, load_eq]
  exact ⟨⟨hlast.handlers, hlast.named, hlast.grounded⟩, hwritten⟩

/-- What one step does to the settings in force. -/
theorem step (h : LoggingTo settings s) (a : Step) :
    LoggingTo ((s.installed? a).or settings) (s.step a).1 := by
  by_cases ha : ∃ path, a = .load path
  · obtain ⟨path, rfl⟩ := ha
    exact (h.load path).1
  · exact (h.step_of_not_load fun path hpath => ha ⟨path, hpath⟩).1

theorem run (h : LoggingTo settings s) (steps : List Step) :
    LoggingTo (s.lastInstalled settings steps) (s.run steps).1 := by
  induction steps generalizing settings s with
  | nil => exact h
  | cons a steps ih => exact ih (h.step a)

/-- A file that the settings in force do not ask for stays as it is when a step logs. -/
theorem content?_of_logs (h : LoggingTo settings s) {a : Step} (ha : a.Logs) {p : Place}
    (hp : p.Proper) (hne : ∀ ls, settings = some ls → ls.place? ≠ some p) :
    (s.step a).1.files.content? p = s.files.content? p := by
  obtain ⟨r, hwritten⟩ := (h.step_of_not_load ha.ne_load).2
  rw [files_of_logs ha]
  rw [installed?_of_logs ha] at hwritten
  exact hwritten.content?_of_ne hp hne s.files

theorem content?_load (h : LoggingTo settings s) (path : Text) {p : Place} (hp : p.Proper)
    (hne : ∀ ls, settings = some ls → ls.place? ≠ some p) :
    (s.load path).1.files.content? p = s.files.content? p := by
  have hevents : ∀ (events : List Logged) (t : Session), LoggingTo settings t →
      (t.logAll events).1.files.content? p = t.files.content? p := by
    intro events
    induction events with
    | nil => exact fun t _ => rfl
    | cons a events ih =>
      intro t ht
      exact (ih _ (ht.step (.log a.origin a.logger a.event))).trans
        (ht.content?_of_logs (a := .log a.origin a.logger a.event) trivial hp hne)
  rw [load_eq]
  exact hevents _ { s with environment := (s.fill path).environment }
    ⟨h.handlers, h.named, h.grounded⟩

end LoggingTo

/-- **The last setup that does not fail is in force.** After any steps there are no handlers before
the first such setup; later the first handler writes to the console, and a second one to the file
just if the settings name one. A setup that fails leaves the handlers, the levels and every file as
they are. A record is written at most once to the console and at most once to that file, and just
once if its logger passes it and it has a form there; so is what any further step hands over, a
setup included, and a load writes so each record that the loader has logged. The file of any other
settings stays as it is. -/
theorem last_setup_in_force (loader : Loader) (env : Environment) (steps : List Step) :
    let s := ((initial loader env).run steps).1
    let last := (initial loader env).lastInstalled none steps
    (last = none → s.handlers = []) ∧
    (∀ ls, last = some ls →
      (ls.place?.isSome ↔ ls.file.truthy) ∧
      s.handlers =
        ⟨.console, if ls.isJson then .json else if ls.color.truthy then .colored Layout.standard
          else .plain Layout.standard⟩ ::
        ls.place?.toList.map fun p =>
          ⟨.file p, if ls.isJson then .json else .plain Layout.standard⟩) ∧
    (∀ origin choice next f output, s.step (.setup origin choice) = (next, ⟨.error f, output⟩) →
      next.handlers = s.handlers ∧ next.loggers = s.loggers ∧
        (∀ p, next.files.content? p = s.files.content? p) ∧ output = .empty) ∧
    (∀ origin logger e, WrittenOnce last (record origin logger e) (s.log origin logger e).2) ∧
    (∀ origin logger e ls, last = some ls → ((s.ask logger).judge logger e.level).2 = true →
      Level.unset ≤ e.level →
      (∀ line, ((consoleFormatter ls).format (record origin logger e)).1 = .ok line →
        (s.log origin logger e).2.console = line ++ [Formatter.newline]) ∧
      ∀ line p, ((fileFormatter ls).format (record origin logger e)).1 = .ok line →
        line.any CodePoint.isSurrogate = false → ls.place? = some p →
        (s.log origin logger e).2.files = [(p, line ++ [Formatter.newline])]) ∧
    (∀ a, (∀ path, a ≠ .load path) →
      ∃ r, WrittenOnce ((initial loader env).lastInstalled none (steps ++ [a])) r
        (s.step a).2.output) ∧
    (∀ path, WrittenEach last
      ((s.fill path).events.map fun a => record a.origin a.logger a.event)
      (s.step (.load path)).2.output) ∧
    ∀ a : Step, a.Logs ∨ (∃ path, a = .load path) →
      ∀ earlier p, LogSettings.place? earlier = some p →
        (∀ ls, last = some ls → ls.place? ≠ some p) →
        (s.step a).1.files.content? p = s.files.content? p := by
  intro s last
  have hs : LoggingTo last s := (loggingTo_initial loader env).run steps
  refine ⟨?_, ?_, ?_, ?_, ?_, ?_, fun path => (hs.load path).2, ?_⟩
  · intro hlast
    rw [hs.handlers, hlast]
    rfl
  · intro ls hlast
    refine ⟨by rw [hs.named ls hlast], ?_⟩
    rw [hs.handlers, hlast, handlersOf]
    unfold handlersFor
    cases ls.place? <;> rfl
  · intro origin choice next f output hstep
    rw [step] at hstep
    split at hstep
    · cases hstep
      exact ⟨rfl, rfl, fun _ => rfl, rfl⟩
    · split at hstep
      · cases hstep
      · next hsetup =>
        cases hstep
        obtain ⟨files, hsame, rfl⟩ := setup_error hs.grounded hsetup
        exact ⟨rfl, rfl, hsame.content?, rfl⟩
  · exact fun origin logger e => writtenOnce_log hs.handlers origin logger e
  · intro origin logger e ls hlast hpassed hlevel
    obtain ⟨hconsole, hfiles⟩ :=
      deliver_handlersFor ls ls.place? (sound_record origin logger e)
    rw [log_of_passed hpassed, hs.handlers, hlast, handlersOf, hconsole, hfiles]
    refine ⟨fun line hline => emit_console_ok hlevel hline, fun line p hline hform hp => ?_⟩
    rw [hp]
    exact emit_file_ok hlevel hline hform p
  · intro a ha
    rw [lastInstalled_concat]
    exact (hs.step_of_not_load ha).2
  · rintro a (ha | ⟨path, rfl⟩) earlier p hp hne
    · exact hs.content?_of_logs ha (LogSettings.proper_place? hp) hne
    · exact hs.content?_load path (LogSettings.proper_place? hp) hne

/-- A second setup replaces the first one and its file. -/
theorem last_setup_in_force_replaced :
    let first : LogSettings :=
      ⟨.text (text "INFO"), .text (text "text"), .text (text "first.log"), .bool true⟩
    let second : LogSettings := { first with file := .text (text "second.log") }
    let refused : Step :=
      .log default (text "app") ⟨Level.error, .text (text "refused"), [], none, none⟩
    let steps : List Step := [.setup default (some first), .setup default (some second)]
    let s := ((initial EnvFile.loader []).run steps).1
    s.handlers = [⟨.console, .colored Layout.standard⟩,
        ⟨.file ⟨false, 0, [text "second.log"]⟩, .plain Layout.standard⟩] ∧
      (s.step refused).1.files.content? ⟨false, 0, [text "first.log"]⟩ =
        s.files.content? ⟨false, 0, [text "first.log"]⟩ := by
  intro first second refused steps s
  obtain ⟨-, hinforce, -, -, -, -, -, hother⟩ := last_setup_in_force EnvFile.loader [] steps
  have hjson : second.isJson = false := by decide +kernel
  have hfirst : first.place? = some ⟨false, 0, [text "first.log"]⟩ := rfl
  have hsecond : second.place? ≠ some ⟨false, 0, [text "first.log"]⟩ := by decide
  have hkept := hother refused (.inl trivial) first _ hfirst fun ls hls =>
    Option.some.inj hls ▸ hsecond
  refine ⟨?_, hkept⟩
  rw [(hinforce second rfl).2, hjson]
  rfl

end Session

end Caret

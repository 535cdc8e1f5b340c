import Caret.Proofs.SetupRuns

/-!
# Colors and files

What is written to files does not depend on the colors of the console, although the handlers share
each record. `uncolored` sets colors aside, in settings and steps and in the handler that writes to
the console; sessions are alike if they differ in no more, and if their handlers do the same to the
files. Main statement: two runs whose steps differ in colors only add the same to the files, step by
step, and without colors a file gets what the console gets.
-/

namespace Caret

/-! ### Setting colors aside -/

namespace LogSettings

def uncolored (ls : LogSettings) : LogSettings := { ls with color := .bool false }

end LogSettings

namespace Settings

def uncolored (v : Settings) : Settings := { v with log := v.log.uncolored }

end Settings

namespace Formatter

def uncolored : Formatter → Formatter
  | .colored layout => .plain layout
  | f => f

end Formatter

namespace Handler

/-- Only the console has colors. -/
def uncolored : Handler → Handler
  | ⟨.console, f⟩ => ⟨.console, f.uncolored⟩
  | h => h

end Handler

namespace Session

open Handler

/-- A setup chooses colors, or takes them from the loaded settings, to which they can be assigned.
-/
def Step.uncolored : Step → Step
  | .assign .logColor _ => .assign .logColor (.bool false)
  | .setup origin choice => .setup origin (choice.map LogSettings.uncolored)
  | a => a

def Answer.uncolored : Answer → Answer
  | .installed level hs => .installed level (hs.map Handler.uncolored)
  | answer => answer

/-- What a reply shows apart from the console and its colors. -/
def Reply.offConsole (r : Reply) : Except Fault Answer × List (Place × Text) :=
  (r.result.map Answer.uncolored, r.output.files)

/-- Sessions that differ in colors only, and whose handlers do the same to the files. -/
structure Alike (s t : Session) : Prop where
  loader : s.loader = t.loader
  environment : s.environment = t.environment
  files : s.files = t.files
  settings : s.settings.map Settings.uncolored = t.settings.map Settings.uncolored
  handlers : s.handlers.map Handler.uncolored = t.handlers.map Handler.uncolored
  loggers : s.loggers = t.loggers
  delivered : ∀ r : Record, r.Sound →
    (deliver s.handlers r).1.files = (deliver t.handlers r).1.files

namespace Alike

variable {s t u : Session}

theorem refl (s : Session) : Alike s s := ⟨rfl, rfl, rfl, rfl, rfl, rfl, fun _ _ => rfl⟩

theorem symm (h : Alike s t) : Alike t s :=
  ⟨h.loader.symm, h.environment.symm, h.files.symm, h.settings.symm, h.handlers.symm,
    h.loggers.symm, fun r hr => (h.delivered r hr).symm⟩

theorem trans (h : Alike s t) (h' : Alike t u) : Alike s u :=
  ⟨h.loader.trans h'.loader, h.environment.trans h'.environment, h.files.trans h'.files,
    h.settings.trans h'.settings, h.handlers.trans h'.handlers, h.loggers.trans h'.loggers,
    fun r hr => (h.delivered r hr).trans (h'.delivered r hr)⟩

/-! ### Settings -/

theorem loaded (h : Alike s t) :
    s.loaded.map Settings.uncolored = t.loaded.map Settings.uncolored := by
  have hloaded (u : Session) : u.loaded.map Settings.uncolored =
      (u.settings.map Settings.uncolored).elim (.error .noSettings) .ok := by
    unfold Session.loaded
    cases u.settings <;> rfl
  rw [hloaded, hloaded, h.settings]

/-- What does not ask for colors can be read off settings of which they are set aside. -/
theorem loaded_map {α : Type} {f : Settings → α} (hf : ∀ v : Settings, f v.uncolored = f v)
    (h : Alike s t) : s.loaded.map f = t.loaded.map f := by
  have hmap : ∀ x : Except Fault Settings, x.map f = (x.map Settings.uncolored).map f := by
    rintro (e | v)
    · rfl
    · exact congrArg Except.ok (hf v).symm
  rw [hmap, hmap t.loaded, h.loaded]

theorem style (h : Alike s t) : s.style = t.style := by
  funext choice
  cases choice with
  | given style => rfl
  | loaded => exact h.loaded_map fun _ => rfl

theorem logSettings (h : Alike s t) (choice : Option LogSettings) :
    (s.logSettings choice).map LogSettings.uncolored =
      (t.logSettings (choice.map LogSettings.uncolored)).map LogSettings.uncolored := by
  have hlog (u : Session) : (u.loaded.map (·.log)).map LogSettings.uncolored =
      (u.loaded.map Settings.uncolored).map (·.log) := by
    cases u.loaded <;> rfl
  cases choice with
  | some ls => rfl
  | none =>
    show (s.loaded.map (·.log)).map LogSettings.uncolored = _
    rw [hlog, h.loaded, ← hlog]
    rfl

/-! ### Records -/

theorem conclude (h : Alike s t) (loggers : Loggers) {given : Option Record}
    (hsound : ∀ r ∈ given, r.Sound) :
    Alike (s.conclude loggers given).1 (t.conclude loggers given).1 ∧
      (s.conclude loggers given).2.files = (t.conclude loggers given).2.files := by
  cases given with
  | none => exact ⟨{ h with loggers := rfl }, rfl⟩
  | some r =>
    have hfiles := h.delivered r (hsound r rfl)
    refine ⟨{ h with loggers := rfl, files := ?_ }, hfiles⟩
    show (deliver s.handlers r).1.applyTo s.files = (deliver t.handlers r).1.applyTo t.files
    rw [Output.applyTo, hfiles, h.files]
    rfl

theorem log (h : Alike s t) (origin : Origin) (logger : Text) (e : Event) :
    Alike (s.log origin logger e).1 (t.log origin logger e).1 ∧
      (s.log origin logger e).2.files = (t.log origin logger e).2.files := by
  obtain ⟨loggers, given, hgiven, hlog⟩ := exists_log s.loggers origin logger e
  rw [hlog s rfl, hlog t h.loggers.symm]
  exact h.conclude loggers (sound_of_given hgiven)

theorem append_files {a b a' b' : Output} (h : a.files = a'.files) (h' : b.files = b'.files) :
    (a ++ b).files = (a' ++ b').files := by
  show b.files.foldl _ a.files = b'.files.foldl _ a'.files
  rw [h, h']

theorem logAll (h : Alike s t) (events : List Logged) :
    Alike (s.logAll events).1 (t.logAll events).1 ∧
      (s.logAll events).2.files = (t.logAll events).2.files := by
  induction events generalizing s t with
  | nil => exact ⟨h, rfl⟩
  | cons a events ih =>
    obtain ⟨hnext, hfiles⟩ := h.log a.origin a.logger a.event
    obtain ⟨hlast, hmore⟩ := ih hnext
    exact ⟨hlast, append_files hfiles hmore⟩

/-! ### Setups -/

theorem handlersFor_uncolored (ls : LogSettings) (file : Option Place) :
    (handlersFor ls file).map Handler.uncolored = handlersFor ls.uncolored file := by
  have hconsole : (consoleFormatter ls).uncolored = consoleFormatter ls.uncolored := by
    show _ = if ls.isJson then Formatter.json else .plain Layout.standard
    unfold consoleFormatter
    split
    · rfl
    · split <;> rfl
  cases file with
  | none =>
    show [(⟨.console, (consoleFormatter ls).uncolored⟩ : Handler)] = _
    rw [hconsole]
    rfl
  | some p =>
    show [(⟨.console, (consoleFormatter ls).uncolored⟩ : Handler), ⟨.file p, fileFormatter ls⟩] = _
    rw [hconsole]
    rfl

/-- Settings that differ in colors only have handlers that do the same to the files. -/
theorem files_handlersFor {ls ls' : LogSettings} (hls : ls.uncolored = ls'.uncolored)
    (file : Option Place) {r : Record} (hr : r.Sound) :
    (deliver (handlersFor ls file) r).1.files = (deliver (handlersFor ls' file) r).1.files := by
  have hformatter : fileFormatter ls = fileFormatter ls' := by
    have hplain (ls : LogSettings) : fileFormatter ls.uncolored = fileFormatter ls := rfl
    rw [← hplain ls, hls, hplain]
  rw [(deliver_handlersFor ls file hr).2, (deliver_handlersFor ls' file hr).2, hformatter]

theorem install (h : Alike s t) {ls ls' : LogSettings} (hls : ls.uncolored = ls'.uncolored)
    (origin : Origin) (file : Option Place) :
    Alike (s.install origin ls file).1 (t.install origin ls' file).1 ∧
      (s.install origin ls file).2.files = (t.install origin ls' file).2.files := by
  have hnamed : ls.level = ls'.level := congrArg (·.level) hls
  have hlevel : ls.levelName = ls'.levelName := by
    rw [LogSettings.levelName, hnamed]
    rfl
  have hwarning : levelWarning ls = levelWarning ls' := by rw [levelWarning, hnamed]; rfl
  have hready : Alike
      { s with
        handlers := handlersFor ls file
        loggers := s.loggers.setRoot (Level.ofName ls'.levelName) }
      { t with
        handlers := handlersFor ls' file
        loggers := t.loggers.setRoot (Level.ofName ls'.levelName) } :=
    { h with
      handlers := by
        show (handlersFor ls file).map Handler.uncolored = (handlersFor ls' file).map _
        rw [handlersFor_uncolored, handlersFor_uncolored, hls]
      loggers := congrArg (Loggers.setRoot · _) h.loggers
      delivered := fun _ hr => files_handlersFor hls file hr }
  unfold Session.install
  rw [hlevel, hwarning]
  dsimp only
  split
  · exact ⟨hready, rfl⟩
  · exact hready.log origin libraryLogger (levelWarning ls')

theorem setup (h : Alike s t) {ls ls' : LogSettings} (hls : ls.uncolored = ls'.uncolored)
    (origin : Origin) : Alike (s.setup origin ls).1 (t.setup origin ls').1 ∧
      (s.setup origin ls).2.map Output.files = (t.setup origin ls').2.map Output.files := by
  have hfile : ls.file = ls'.file := congrArg (·.file) hls
  have hpath : logPath ls = logPath ls' := by rw [logPath, logPath, hfile]
  unfold Session.setup
  rw [hpath, h.files]
  split
  · exact ⟨h, rfl⟩
  · next path _ =>
    dsimp only
    cases openLog t.files path with
    | mk files opened =>
      have hopened : Alike { s with files := files } { t with files := files } :=
        { h with files := rfl }
      cases opened with
      | error f => exact ⟨hopened, rfl⟩
      | ok opened =>
        obtain ⟨file, o⟩ := opened
        obtain ⟨hready, hwarned⟩ := hopened.install hls origin file
        exact ⟨hready, congrArg Except.ok (append_files rfl hwarned)⟩

/-! ### Loads -/

theorem load (h : Alike s t) (path : Text) :
    Alike (s.load path).1 (t.load path).1 ∧ (s.load path).2.1 = (t.load path).2.1 ∧
      (s.load path).2.2.files = (t.load path).2.2.files := by
  have hfill : s.fill path = t.fill path := by
    rw [Session.fill, Session.fill, h.loader, h.environment, h.files]
  have hsettings : s.settingsAfter path = t.settingsAfter path := by
    rw [settingsAfter, settingsAfter, hfill]
  have hfilled : Alike { s with environment := (t.fill path).environment }
      { t with environment := (t.fill path).environment } := { h with environment := rfl }
  obtain ⟨hlast, hfiles⟩ := hfilled.logAll (t.fill path).events
  rw [load_eq, load_eq, filled, filled, hfill, hsettings]
  refine ⟨{ hlast with settings := ?_ }, rfl, hfiles⟩
  cases (t.settingsAfter path).toOption with
  | none => exact hlast.settings
  | some v => rfl

end Alike

/-! ### Steps -/

/-- The same has been done and shown apart from the console. -/
structure DoneAlike (x y : Session × Reply) : Prop where
  session : Alike x.1 y.1
  reply : x.2.offConsole = y.2.offConsole

theorem doneAlike_of_logs {s t : Session} (h : Alike s t) {a : Step} (ha : a.Logs) :
    DoneAlike (s.step a) (t.step a) := by
  obtain ⟨loggers, given, result, hsound, hstep⟩ := exists_conclude s ha
  obtain ⟨hsession, hfiles⟩ := h.conclude loggers hsound
  rw [hstep s rfl rfl, hstep t h.loggers.symm h.style.symm]
  exact ⟨hsession, congrArg (Prod.mk _) hfiles⟩

/-- What a setup shows, by what becomes of it and what it adds to the files. -/
def setupShown (next : Session) :
    Except Fault (List (Place × Text)) → Except Fault Answer × List (Place × Text)
  | .ok files =>
    (.ok (.installed next.loggers.root (next.handlers.map Handler.uncolored)), files)
  | .error f => (.error f, [])

theorem step_setup {s : Session} {choice : Option LogSettings} {ls : LogSettings}
    (h : s.logSettings choice = .ok ls) (origin : Origin) :
    (s.step (.setup origin choice)).1 = (s.setup origin ls).1 ∧
      (s.step (.setup origin choice)).2.offConsole =
        setupShown (s.setup origin ls).1 ((s.setup origin ls).2.map Output.files) := by
  rw [step, h]
  dsimp only
  cases s.setup origin ls with
  | mk next result => cases result <;> exact ⟨rfl, rfl⟩

theorem setupShown_congr {s t : Session} (h : Alike s t) : setupShown s = setupShown t := by
  funext result
  cases result with
  | error f => rfl
  | ok files => rw [setupShown, setupShown, h.handlers, h.loggers]

theorem doneAlike_setup {s t : Session} (h : Alike s t) (origin : Origin)
    (choice : Option LogSettings) : DoneAlike (s.step (.setup origin choice))
      (t.step (.setup origin (choice.map LogSettings.uncolored))) := by
  rcases map_eq_map (h.logSettings choice) with ⟨f, hs, ht⟩ | ⟨ls, ls', hs, ht, hls⟩
  · rw [step, step, hs, ht]
    exact ⟨h, rfl⟩
  · obtain ⟨hnext, hshown⟩ := step_setup hs origin
    obtain ⟨hnext', hshown'⟩ := step_setup ht origin
    obtain ⟨hsession, hresult⟩ := h.setup hls origin
    constructor
    · rw [hnext, hnext']
      exact hsession
    · rw [hshown, hshown', hresult, setupShown_congr hsession]

theorem doneAlike_assign {s t : Session} (h : Alike s t) (field : Settings.Field) (value : Value) :
    DoneAlike (s.step (.assign field value)) (t.step (Step.assign field value).uncolored) := by
  have hsettings := h.settings
  have hassign (v : Settings) : (v.assign value field).uncolored =
      (v.uncolored.assign value field).uncolored := by cases field <;> rfl
  obtain ⟨value', huncolored, hvalue⟩ : ∃ value', (Step.assign field value).uncolored =
      .assign field value' ∧ ∀ v : Settings,
        (v.assign value field).uncolored = (v.assign value' field).uncolored := by
    cases field with
    | logColor => exact ⟨_, rfl, fun _ => rfl⟩
    | _ => exact ⟨value, rfl, fun _ => rfl⟩
  rw [huncolored, step, step]
  cases hs : s.settings with
  | none =>
    cases ht : t.settings with
    | none => exact ⟨h, rfl⟩
    | some w => rw [hs, ht] at hsettings; cases hsettings
  | some v =>
    cases ht : t.settings with
    | none => rw [hs, ht] at hsettings; cases hsettings
    | some w =>
      rw [hs, ht] at hsettings
      have hvw : v.uncolored = w.uncolored := Option.some.inj hsettings
      refine ⟨{ h with settings := congrArg some ?_ }, rfl⟩
      rw [hassign, hvw, ← hassign, hvalue]

/-- A step does the same without colors, apart from the console. -/
theorem doneAlike_uncolored {s t : Session} (h : Alike s t) (a : Step) :
    DoneAlike (s.step a) (t.step a.uncolored) := by
  cases a with
  | log origin logger e => exact doneAlike_of_logs h (a := .log origin logger e) trivial
  | report origin verdict logger draft =>
    exact doneAlike_of_logs h (a := .report origin verdict logger draft) trivial
  | setup origin choice => exact doneAlike_setup h origin choice
  | assign field value => exact doneAlike_assign h field value
  | load path =>
    obtain ⟨hsession, hresult, hfiles⟩ := h.load path
    exact ⟨hsession, Prod.ext (congrArg (fun x => (x.map Answer.settings).map Answer.uncolored)
      hresult) hfiles⟩
  | validate =>
    refine ⟨h, ?_⟩
    have hvalid (u : Session) : u.loaded.bind (fun v => v.validate.map fun _ => Answer.valid) =
        (u.loaded.map fun v => v.validate.map fun _ => Answer.valid).bind id := by
      cases u.loaded <;> rfl
    show (Reply.quiet (s.loaded.bind _)).offConsole = (Reply.quiet (t.loaded.bind _)).offConsole
    rw [hvalid, hvalid, h.loaded_map fun _ => rfl]
  | pointer draft =>
    have hpointer : s.pointerDraft draft = t.pointerDraft draft := by
      unfold pointerDraft
      rw [h.style]
    refine ⟨h, ?_⟩
    show (Reply.quiet ((s.pointerDraft draft).map .display)).offConsole = _
    rw [hpointer]
    rfl
  | setVariable name value =>
    simp only [Step.uncolored, step, h.environment]
    split
    · exact ⟨{ h with environment := rfl }, rfl⟩
    · exact ⟨h, rfl⟩
  | write path content =>
    simp only [Step.uncolored, step, h.files]
    exact ⟨{ h with files := rfl }, rfl⟩
  | environment =>
    simp only [Step.uncolored, step, h.environment]
    exact ⟨h, rfl⟩
  | setLevel logger level =>
    simp only [Step.uncolored, step, h.loggers]
    exact ⟨{ h with loggers := rfl }, rfl⟩
  | disable level =>
    simp only [Step.uncolored, step, h.loggers]
    exact ⟨{ h with loggers := rfl }, rfl⟩
  | failed f => exact ⟨h, rfl⟩

/-! ### Runs -/

theorem doneAlike_step {s t : Session} {a b : Step} (hs : Alike s t)
    (ha : a.uncolored = b.uncolored) : DoneAlike (s.step a) (t.step b) := by
  have hsa := doneAlike_uncolored hs a
  have htb := doneAlike_uncolored (.refl t) b
  rw [ha] at hsa
  exact ⟨hsa.session.trans htb.session.symm, hsa.reply.trans htb.reply.symm⟩

/-- Runs that differ in colors only show the same apart from the console. -/
theorem run_congr {s t : Session} {steps steps' : List Step} (hs : Alike s t)
    (hsteps : steps.map Step.uncolored = steps'.map Step.uncolored) :
    Alike (s.run steps).1 (t.run steps').1 ∧
      (s.run steps).2.map Reply.offConsole = (t.run steps').2.map Reply.offConsole := by
  induction steps generalizing s t steps' with
  | nil =>
    obtain rfl : steps' = [] := List.map_eq_nil_iff.mp hsteps.symm
    exact ⟨hs, rfl⟩
  | cons a steps ih =>
    cases steps' with
    | nil => cases hsteps
    | cons b steps' =>
      obtain ⟨ha, hrest⟩ := List.cons.inj hsteps
      obtain ⟨hsession, hreply⟩ := doneAlike_step hs ha
      obtain ⟨hlast, hreplies⟩ := ih hsession hrest
      refine ⟨hlast, ?_⟩
      show (s.step a).2.offConsole :: _ = (t.step b).2.offConsole :: _
      rw [hreply]
      exact congrArg _ hreplies

/-! ### Without colors -/

theorem formatters_eq {ls : LogSettings} (h : ls.isJson = true ∨ ls.color.truthy = false) :
    consoleFormatter ls = fileFormatter ls := by
  unfold consoleFormatter fileFormatter
  split
  · rfl
  · next hjson =>
    rcases h with h | h
    · exact absurd h hjson
    · rw [h]
      rfl

/-- Without colors the file gets what the console gets. -/
theorem deliver_alike {ls : LogSettings} (hplain : ls.isJson = true ∨ ls.color.truthy = false)
    (p : Place) {r : Record} (hr : r.Sound)
    (hform : ∀ c ∈ (deliver (handlersFor ls (some p)) r).1.console, c.isSurrogate = false) :
    (deliver (handlersFor ls (some p)) r).1.files =
        [(p, (deliver (handlersFor ls (some p)) r).1.console)] ∨
      (deliver (handlersFor ls (some p)) r).1.files = [] ∧
        (deliver (handlersFor ls (some p)) r).1.console = [] := by
  obtain ⟨hconsole, hfiles⟩ := deliver_handlersFor ls (some p) hr
  rw [hconsole, formatters_eq hplain] at hform
  rw [hfiles, hconsole, formatters_eq hplain]
  exact emit_alike p _ r hform

theorem LoggingTo.output_of_logs {settings : Option LogSettings} {s : Session} {a : Step}
    (h : LoggingTo settings s) (ha : a.Logs) :
    (s.step a).2.output = .empty ∨
      ∃ r : Record, r.Sound ∧ (s.step a).2.output = (deliver (handlersOf settings) r).1 := by
  obtain ⟨loggers, given, result, hsound, hstep⟩ := exists_conclude s ha
  rw [hstep s rfl rfl, ← h.handlers]
  cases given with
  | none => exact .inl rfl
  | some r => exact .inr ⟨r, hsound r rfl, rfl⟩

/-- **What files get does not depend on colors.** Two runs from one session whose steps differ in
colors only have the same results, apart from the formatter of the console, and add the same to the
files in every step. Under settings that ask for a file, and for JSON or no colors, a step that logs
adds to the file what it writes to the console, if a file can hold it. Whatever the settings are, the
handler of the file writes of a record, which the handler of the console has had before it, what it
would write alone; and a formatter with colors gives the record back as it was. -/
theorem files_apart_from_colors (start : Session) (loader : Loader) (env : Environment) :
    (∀ steps steps' : List Step, steps.map Step.uncolored = steps'.map Step.uncolored →
      (start.run steps).2.map Reply.offConsole = (start.run steps').2.map Reply.offConsole ∧
        (start.run steps).1.files = (start.run steps').1.files) ∧
    (∀ (steps : List Step) (ls : LogSettings) (a : Step),
      (initial loader env).lastInstalled none steps = some ls → ls.file.truthy = true →
      ls.isJson = true ∨ ls.color.truthy = false → a.Logs →
      let o := (((initial loader env).run steps).1.step a).2.output
      (∀ c ∈ o.console, c.isSurrogate = false) →
      ∃ p, ls.place? = some p ∧
        (o.files = [(p, o.console)] ∨ o.files = [] ∧ o.console = [])) ∧
    (∀ ls p origin logger e, (deliver (handlersFor ls (some p)) (record origin logger e)).1.files =
      (emit ⟨.file p, fileFormatter ls⟩ (record origin logger e)).1.files) ∧
    ∀ layout r, ((Formatter.colored layout).format r).2 = r := by
  refine ⟨?_, ?_, ?_, fun _ _ => rfl⟩
  · intro steps steps' hsteps
    obtain ⟨hsession, hreplies⟩ := run_congr (.refl start) hsteps
    exact ⟨hreplies, hsession.files⟩
  · intro steps ls a hlast hfile hplain ha o hform
    have hs := (loggingTo_initial loader env).run steps
    rw [hlast] at hs
    obtain ⟨p, hp⟩ := Option.isSome_iff_exists.mp ((hs.named ls rfl).trans hfile)
    refine ⟨p, hp, ?_⟩
    rcases hs.output_of_logs ha with hempty | ⟨r, hr, hdeliver⟩
    · exact .inr ⟨congrArg Output.files hempty, congrArg Output.console hempty⟩
    · have ho : o = (deliver (handlersFor ls (some p)) r).1 := hp ▸ hdeliver
      rw [ho] at hform ⊢
      exact deliver_alike hplain p hr hform
  · intro ls p origin logger e
    exact (deliver_handlersFor ls (some p) (sound_record origin logger e)).2

/-- An error is logged with colors, and without them. -/
theorem files_apart_from_colors_error :
    let settings (color : Bool) : LogSettings :=
      ⟨.text (text "INFO"), .text (text "text"), .text (text "app.log"), .bool color⟩
    let refused : Step :=
      .log default (text "app") ⟨Level.error, .text (text "refused"), [], none, none⟩
    let steps (color : Bool) : List Step := [.setup default (some (settings color)), refused]
    let start := initial EnvFile.loader []
    let o := ((start.run [.setup default (some (settings false))]).1.step refused).2.output
    (start.run (steps true)).2.map Reply.offConsole =
        (start.run (steps false)).2.map Reply.offConsole ∧
      ∃ p, (settings false).place? = some p ∧
        (o.files = [(p, o.console)] ∨ o.files = [] ∧ o.console = []) := by
  intro settings refused steps start o
  obtain ⟨hruns, hplain, -, -⟩ := files_apart_from_colors start EnvFile.loader []
  exact ⟨(hruns (steps true) (steps false) rfl).1,
    hplain _ (settings false) refused rfl rfl (.inr rfl) trivial (by decide +kernel)⟩

end Session

end Caret

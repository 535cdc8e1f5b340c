import Caret.Proofs.ReportOutcomes
import Caret.Proofs.SetupLevels

/-!
# Valid settings can be used

Settings are checked where they are used as well, or what cannot be used is replaced, and neither
has a part in what `validate` finds. Main statement: a setup falls back to another level just where
`validate` finds no level, and a display refuses the mark just where `validate` does; so settings that
are valid are used as they are, without a warning and without a fault of theirs.
-/

namespace Caret

namespace LogSettings

variable {ls : LogSettings}

theorem isJson_iff : ls.isJson = true ↔ ls.format = .text (text "json") := Value.same_text_iff

theorem hasKnownFormat_iff : ls.hasKnownFormat = true ↔
    ls.format = .text (text "text") ∨ ls.format = .text (text "json") := by
  rw [hasKnownFormat, Bool.or_eq_true_iff, isJson_iff, Value.same_text_iff]

end LogSettings

/-! ### What is valid -/

namespace Settings

variable {v : Settings}

def KnownFormat (v : Settings) : Prop :=
  v.log.format = .text (text "text") ∨ v.log.format = .text (text "json")

/-- The level is shown by the name of a level, in any case. -/
def KnownLevel (v : Settings) : Prop :=
  ∃ level, Level.names.lookup v.log.level.display.upper = some level

theorem validate_of_format (h : ¬ v.KnownFormat) :
    v.validate = .error (.unknownFormat v.log.format) := by
  have hformat := Bool.eq_false_iff.mpr (mt LogSettings.hasKnownFormat_iff.mp h)
  rw [validate, hformat]
  rfl

theorem validate_of_level (hformat : v.KnownFormat) (h : ¬ v.KnownLevel) :
    v.validate = .error (.unknownLevel v.log.level) := by
  have hlevel := Bool.eq_false_iff.mpr (mt Level.isName_iff.mp h)
  rw [validate, LogSettings.hasKnownFormat_iff.mpr hformat, LogSettings.levelName, hlevel]
  rfl

theorem validate_of_known (hformat : v.KnownFormat) (hlevel : v.KnownLevel) :
    v.validate = (checkMark v.style.mark).map fun _ => () := by
  rw [validate, LogSettings.hasKnownFormat_iff.mpr hformat, LogSettings.levelName,
    Level.isName_iff.mpr hlevel]
  cases checkMark v.style.mark <;> rfl

/-- The three checks in their order. -/
theorem validate_cases (v : Settings) :
    ¬ v.KnownFormat ∧ v.validate = .error (.unknownFormat v.log.format) ∨
    v.KnownFormat ∧ ¬ v.KnownLevel ∧ v.validate = .error (.unknownLevel v.log.level) ∨
    v.KnownFormat ∧ v.KnownLevel ∧ ¬ VisibleMark v.style.mark ∧
      v.validate = .error (.badPointer v.style.mark) ∨
    v.KnownFormat ∧ v.KnownLevel ∧ VisibleMark v.style.mark ∧ v.validate = .ok () := by
  by_cases hformat : v.KnownFormat
  · by_cases hlevel : v.KnownLevel
    · rw [validate_of_known hformat hlevel]
      by_cases hmark : VisibleMark v.style.mark
      · obtain ⟨p, hp⟩ := hmark.exists_ok
        rw [hp]
        exact .inr (.inr (.inr ⟨hformat, hlevel, hmark, rfl⟩))
      · rw [checkMark_of_not_visible hmark]
        exact .inr (.inr (.inl ⟨hformat, hlevel, hmark, rfl⟩))
    · exact .inr (.inl ⟨hformat, hlevel, validate_of_level hformat hlevel⟩)
  · exact .inl ⟨hformat, validate_of_format hformat⟩

end Settings

namespace Session

/-! ### Faults of a diagnostic itself -/

namespace DiagnosticDraft

variable {draft : DiagnosticDraft} {style : PointerStyle}

/-- The fault is one of the diagnostic itself: its sequence or its message could not be made, or its
index lies outside the sequence. -/
def OwnFault (draft : DiagnosticDraft) (f : Fault) : Prop :=
  draft.sequence = .error f ∨ draft.message = .error f ∨
    ∃ xs, draft.sequence = .ok xs ∧ f = .outside draft.index xs.elements.length

theorem make_eq_ok {d : Diagnostic} (h : draft.make (.ok style) = .ok d) :
    ∃ xs m, draft.sequence = .ok xs ∧ draft.message = .ok m ∧
      d = ⟨xs, draft.index, m, style⟩ := by
  obtain ⟨xs, hxs, h⟩ := bind_eq_ok_iff.mp h
  obtain ⟨_, hstyle, h⟩ := bind_eq_ok_iff.mp h
  obtain ⟨m, hm, h⟩ := bind_eq_ok_iff.mp h
  cases hstyle
  cases h
  exact ⟨xs, m, hxs, hm, rfl⟩

theorem ownFault_of_make {f : Fault} (h : draft.make (.ok style) = .error f) :
    draft.OwnFault f := by
  unfold make at h
  cases hxs : draft.sequence with
  | error g =>
    rw [hxs] at h
    cases h
    exact .inl hxs
  | ok xs =>
    cases hm : draft.message with
    | error g =>
      rw [hxs, hm] at h
      cases h
      exact .inr (.inl hm)
    | ok m =>
      rw [hxs, hm] at h
      cases h

end DiagnosticDraft

/-! ### Steps that take the loaded settings -/

section Loaded

variable {s : Session} {v : Settings} (h : s.settings = some v)
include h

theorem step_validate : (s.step .validate).2.result = v.validate.map fun _ => .valid := by
  simp only [step, loaded, h, Reply.quiet]
  rfl

/-- What each of the three checks accepts, read off the answer. -/
theorem validate_iff :
    let checked := (s.step .validate).2.result
    (checked = .ok .valid ↔ v.KnownFormat ∧ v.KnownLevel ∧ VisibleMark v.style.mark) ∧
    (checked = .error (.unknownLevel v.log.level) ↔ v.KnownFormat ∧ ¬ v.KnownLevel) ∧
    (checked = .error (.badPointer v.style.mark) ↔
      v.KnownFormat ∧ v.KnownLevel ∧ ¬ VisibleMark v.style.mark) := by
  intro checked
  have hchecked : checked = v.validate.map fun _ => .valid := step_validate h
  rw [hchecked]
  rcases v.validate_cases with ⟨hformat, heq⟩ | ⟨hformat, hlevel, heq⟩ |
    ⟨hformat, hlevel, hmark, heq⟩ | ⟨hformat, hlevel, hmark, heq⟩
  · simp [heq, hformat, Except.map]
  · simp [heq, hformat, hlevel, Except.map]
  · simp [heq, hformat, hlevel, hmark, Except.map]
  · simp [heq, hformat, hlevel, hmark, Except.map]

theorem setup_of_loaded {origin : Origin} {next : Session} {answer : Answer} {o : Output}
    (hstep : s.step (.setup origin none) = (next, ⟨.ok answer, o⟩)) :
    answer = .installed next.loggers.root next.handlers ∧ Installs origin v.log next o := by
  have hls : s.logSettings none = .ok v.log := by
    rw [logSettings, loaded, h]
    rfl
  rw [step, hls] at hstep
  dsimp only at hstep
  split at hstep
  · next hsetup =>
    cases hstep
    exact ⟨rfl, setup_installs hsetup⟩
  · cases hstep

theorem style_of_loaded : s.style .loaded = .ok (.ok v.style) := by
  rw [style, loaded, h]
  rfl

variable {draft : DiagnosticDraft} (hloaded : draft.style = .loaded)
  (hmark : VisibleMark v.style.mark)
include hloaded hmark

theorem fault_of_pointer {f : Fault} (hstep : (s.step (.pointer draft)).2.result = .error f) :
    draft.OwnFault f ∨ ∃ m, draft.message = .ok m ∧ f = .notText 0 m := by
  have hpointer : s.pointerDraft draft = .error f := by
    cases hdraft : s.pointerDraft draft with
    | ok t =>
      rw [step, hdraft] at hstep
      cases hstep
    | error g =>
      rw [step, hdraft] at hstep
      cases hstep
      rfl
  rw [pointerDraft, hloaded, style_of_loaded h] at hpointer
  cases hmake : draft.make (.ok v.style) with
  | error g =>
    simp only [bind, Except.bind, hmake] at hpointer
    cases hpointer
    exact .inl (DiagnosticDraft.ownFault_of_make hmake)
  | ok d =>
    obtain ⟨xs, m, hxs, hm, rfl⟩ := DiagnosticDraft.make_eq_ok hmake
    simp only [bind, Except.bind, hmake] at hpointer
    rcases pointAt_eq_error_iff.mp hpointer with ⟨hnot, -⟩ | ⟨-, -, rfl⟩ | ⟨-, -, -, -, rfl⟩
    · exact absurd hmark hnot
    · exact .inl (.inr (.inr ⟨xs, hxs, rfl⟩))
    · exact .inr ⟨m, hm, rfl⟩

theorem fault_of_report {origin : Origin} {verdict : Verdict} {logger : Text} {f : Fault}
    (hstep : (s.step (.report origin verdict logger draft)).2.result = .error f) :
    draft.OwnFault f := by
  cases hmake : draft.make (.ok v.style) with
  | error g =>
    have hreply : s.step (.report origin verdict logger draft) =
        (s.ask logger, .quiet (.error g)) := by
      rw [step, reportDraft, hloaded, style_of_loaded h]
      dsimp only
      rw [hmake]
    rw [hreply] at hstep
    cases hstep
    exact DiagnosticDraft.ownFault_of_make hmake
  | ok d =>
    obtain ⟨xs, m, hxs, hm, rfl⟩ := DiagnosticDraft.make_eq_ok hmake
    have hdiagnostic : s.diagnostic draft = .ok ⟨xs, draft.index, m, v.style⟩ := by
      rw [diagnostic, hloaded, style_of_loaded h]
      exact hmake
    have houtcome := outcome_of_report hdiagnostic origin verdict logger
    generalize s.step (.report origin verdict logger draft) = result at houtcome hstep
    cases houtcome with
    | outside =>
      cases hstep
      exact .inr (.inr ⟨xs, hxs, rfl⟩)
    | refused _ _ hnot => exact absurd hmark hnot
    | silent => cases hstep
    | written => cases hstep

end Loaded

/-! ### Setups of valid settings -/

theorem formatter_of_mem {ls : LogSettings} {file : Option Place} {handler : Handler}
    (h : handler ∈ handlersFor ls file) :
    handler.formatter = consoleFormatter ls ∨ handler.formatter = fileFormatter ls := by
  rcases List.mem_cons.mp h with rfl | h
  · exact .inl rfl
  · cases file with
    | none => cases h
    | some p =>
      obtain rfl := List.mem_singleton.mp h
      exact .inr rfl

/-- Settings whose format is JSON have no other formatter, and other settings none for JSON. -/
theorem formatter_eq_json_iff {ls : LogSettings} {file : Option Place} {handler : Handler}
    (h : handler ∈ handlersFor ls file) :
    handler.formatter = .json ↔ ls.format = .text (text "json") := by
  rw [← LogSettings.isJson_iff]
  have hform := formatter_of_mem h
  unfold consoleFormatter fileFormatter at hform
  by_cases hjson : ls.isJson = true
  · simp only [if_pos hjson, or_self] at hform
    exact iff_of_true hform hjson
  · refine iff_of_false (fun heq => ?_) hjson
    rw [heq, if_neg hjson, if_neg hjson] at hform
    split at hform
    · simp at hform
    · simp at hform

theorem Opening.quiet {ls : LogSettings} {o : Output} (h : Opening ls o) :
    o.console = [] ∧ ∀ e ∈ o.files, e.2 = [] := by
  rcases h with rfl | ⟨p, -, rfl⟩
  · exact ⟨rfl, fun e he => absurd he List.not_mem_nil⟩
  · refine ⟨rfl, fun e he => ?_⟩
    obtain rfl := List.mem_singleton.mp he
    rfl

/-! ### Validation and use -/

/-- **Validation agrees with use.** Whatever the settings have been assigned, `validate` looks at the
format, the level and the mark. A setup that does not fail gives the root the level of the name if
there is one, and else falls back and warns through the handlers it has installed, if the logger of
the library passes the warning; it writes nothing else. A display refuses the mark just where
`validate` does. So with valid settings a setup writes nothing and its handlers write JSON just if
the format says so, and a display or a report is refused for faults of its own only. -/
theorem validation_agrees_with_use {s : Session} {v : Settings} (h : s.settings = some v) :
    let checked := (s.step .validate).2.result
    (checked = .ok .valid ↔ v.KnownFormat ∧ v.KnownLevel ∧ VisibleMark v.style.mark) ∧
    (checked = .error (.unknownLevel v.log.level) ↔ v.KnownFormat ∧ ¬ v.KnownLevel) ∧
    (checked = .error (.badPointer v.style.mark) ↔
      v.KnownFormat ∧ v.KnownLevel ∧ ¬ VisibleMark v.style.mark) ∧
    (∀ origin next answer o, s.step (.setup origin none) = (next, ⟨.ok answer, o⟩) →
      answer = .installed next.loggers.root next.handlers ∧ Installs origin v.log next o) ∧
    (∀ xs index headline,
      (pointAt xs index headline v.style = .error (.badPointer v.style.mark) ↔
        ¬ VisibleMark v.style.mark) ∧
      ((∃ f, pointAt xs index headline v.style = .error f ∧ f.kind = .value) ↔
        ¬ VisibleMark v.style.mark) ∧
      ∀ f, VisibleMark v.style.mark → pointAt xs index headline v.style = .error f →
        f = .outside index xs.elements.length ∨ f = .notText 0 headline) ∧
    (checked = .ok .valid →
      (∀ origin next answer o, s.step (.setup origin none) = (next, ⟨.ok answer, o⟩) →
        o.console = [] ∧ (∀ e ∈ o.files, e.2 = []) ∧ v.KnownFormat ∧
          ∀ handler ∈ next.handlers,
            handler.formatter = .json ↔ v.log.format = .text (text "json")) ∧
      ∀ draft f, draft.style = .loaded →
        ((s.step (.pointer draft)).2.result = .error f →
          draft.OwnFault f ∨ ∃ m, draft.message = .ok m ∧ f = .notText 0 m) ∧
        ∀ origin verdict logger,
          (s.step (.report origin verdict logger draft)).2.result = .error f →
            draft.OwnFault f) := by
  intro checked
  obtain ⟨hvalid, hunknown, hbad⟩ := validate_iff h
  refine ⟨hvalid, hunknown, hbad, fun origin next answer o hstep => setup_of_loaded h hstep,
    fun xs index headline => ⟨pointAt_eq_badPointer_iff, pointAt_kind_value_iff,
      fun f hmark hf => ?_⟩, fun hchecked => ?_⟩
  · rcases pointAt_eq_error_iff.mp hf with ⟨hnot, -⟩ | ⟨-, -, hfault⟩ | ⟨-, -, -, -, hfault⟩
    · exact absurd hmark hnot
    · exact .inl hfault
    · exact .inr hfault
  · obtain ⟨hformat, ⟨level, hlookup⟩, hmark⟩ := hvalid.mp hchecked
    refine ⟨fun origin next answer o hstep => ?_, fun draft f hloaded =>
      ⟨fault_of_pointer h hloaded hmark, fun _ _ _ => fault_of_report h hloaded hmark⟩⟩
    obtain ⟨-, hinstalls⟩ := setup_of_loaded h hstep
    obtain ⟨-, hopening⟩ := hinstalls.named level hlookup
    obtain ⟨hconsole, hfiles⟩ := hopening.quiet
    refine ⟨hconsole, hfiles, hformat, fun handler hhandler => ?_⟩
    rw [hinstalls.handlers] at hhandler
    exact formatter_eq_json_iff hhandler

/-- A dotless i is a capital I, and so names a level; a level without a name is warned of. -/
theorem validation_agrees_with_use_assigned :
    let assigned (level : Text) :=
      ((initial EnvFile.loader []).run [.load (text ".env"), .assign .logLevel (.text level)]).1
    ((assigned (text "\u0131nfo")).step .validate).2.result = .ok .valid ∧
      (∃ next answer o, (assigned (text "\u0131nfo")).step (.setup default none) =
        (next, ⟨.ok answer, o⟩) ∧ next.loggers.root = Level.info ∧ o.console = []) ∧
      ((assigned (text "loud")).step .validate).2.result =
        .error (.unknownLevel (.text (text "loud"))) ∧
      ∃ next answer o r,
        (assigned (text "loud")).step (.setup default none) = (next, ⟨.ok answer, o⟩) ∧
        next.loggers.root = Level.info ∧ WarnsOf default (.text (text "loud")) r ∧
        o.console = (Handler.deliver next.handlers r).1.console := by
  intro assigned
  let settings (level : Text) : Settings :=
    ⟨{ LogSettings.standard with level := .text level }, .standard⟩
  have hloaded : ∀ level, (assigned level).settings = some (settings level) := fun _ => rfl
  have hformat : ∀ level, (settings level).KnownFormat := fun _ => .inl rfl
  have hmark : VisibleMark PointerStyle.standard.mark := by decide
  have hknown : Level.names.lookup (text "\u0131nfo").upper = some Level.info := by decide +kernel
  have hunknown : Level.names.lookup (text "loud").upper = none := by decide +kernel
  refine ⟨?_, ?_, ?_, ?_⟩
  · exact (validation_agrees_with_use (hloaded _)).1.mpr ⟨hformat _, ⟨_, hknown⟩, hmark⟩
  · obtain ⟨next, answer, o, hstep⟩ : ∃ next answer o,
        (assigned (text "\u0131nfo")).step (.setup default none) = (next, ⟨.ok answer, o⟩) :=
      ⟨_, _, _, rfl⟩
    obtain ⟨-, -, -, hsetup, -⟩ := validation_agrees_with_use (hloaded (text "\u0131nfo"))
    obtain ⟨hroot, hopening⟩ := (hsetup default next answer o hstep).2.named _ hknown
    exact ⟨next, answer, o, hstep, hroot, hopening.quiet.1⟩
  · obtain ⟨-, hlevel, -⟩ := validation_agrees_with_use (hloaded (text "loud"))
    refine hlevel.mpr ⟨hformat _, ?_⟩
    rintro ⟨level, hlookup⟩
    exact absurd (hunknown.symm.trans hlookup) (Option.some_ne_none level).symm
  · obtain ⟨answer, o, hstep⟩ : ∃ answer o, (assigned (text "loud")).step (.setup default none) =
        (((assigned (text "loud")).step (.setup default none)).1, ⟨.ok answer, o⟩) := ⟨_, _, rfl⟩
    obtain ⟨-, -, -, hsetup, -⟩ := validation_agrees_with_use (hloaded (text "loud"))
    obtain ⟨hroot, opened, r, hopening, hwarns, ho⟩ :=
      (hsetup default _ answer o hstep).2.unnamed hunknown
    have hpasses : ((assigned (text "loud")).step (.setup default none)).1.loggers.passes
        libraryLogger Level.warning = true := by decide +kernel
    refine ⟨_, answer, o, r, hstep, hroot, hwarns, ?_⟩
    rw [ho, if_pos hpasses]
    show opened.console ++ _ = _
    rw [hopening.quiet.1]
    rfl

/-- Settings that are valid do not make a text valid: its lone surrogate is refused before any
settings are looked at. -/
theorem lone_surrogate_refused_under_valid_settings :
    let s := ((initial EnvFile.loader []).run [.load (text ".env")]).1
    let lone : CodePoint := ⟨0xD800, by decide⟩
    let draft : DiagnosticDraft :=
      ⟨(Source.decode [lone]).map .source, 0, .ok (.text (text "odd")), .loaded⟩
    (s.step .validate).2.result = .ok .valid ∧
      (s.step (.pointer draft)).2.result = .error (.loneSurrogate lone 0) ∧
      (s.step (.report default .rejected (text "app") draft)).2.result =
        .error (.loneSurrogate lone 0) := by
  intro s lone draft
  have hloaded : s.settings = some ⟨.standard, .standard⟩ := rfl
  have hlevel : Level.names.lookup LogSettings.standard.level.display.upper = some Level.info := by
    decide +kernel
  exact ⟨(validate_iff hloaded).1.mpr ⟨.inl rfl, ⟨_, hlevel⟩, by decide⟩, rfl, rfl⟩

end Session

end Caret

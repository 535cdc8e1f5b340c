import Caret.Proofs.EnvironmentFills
import Caret.Proofs.ValidSettings

/-!
# Loaded settings have a mark

The mark of a display is checked when settings are made from the environment, which files and steps
change freely. Settings that are refused replace none, so a load that fails leaves those it found,
however the environment has come to look. Main statement: in every state of a run that assigns no
mark, loaded settings have a visible one, so that `validate` is left with the format and the level to
refuse, and a display of the loaded style with its headline.
-/

namespace Caret

/-! ### Marks of settings -/

namespace Settings

variable {v : Settings}

/-- The check is made where settings are made. -/
theorem visibleMark_ofEnvironment {env : Environment} (h : ofEnvironment env = .ok v) :
    VisibleMark v.style.mark := by
  obtain ⟨style, hstyle, rfl⟩ := map_eq_ok_iff.mp h
  obtain ⟨p, hp, rfl⟩ := map_eq_ok_iff.mp hstyle
  exact ⟨p, checkMark_eq_ok_iff.mp hp⟩

theorem mark_assign (v : Settings) (value : Value) {field : Field} (h : field ≠ .mark) :
    (v.assign value field).style.mark = v.style.mark := by
  cases field with
  | mark => exact absurd rfl h
  | _ => rfl

theorem validate_of_visibleMark (h : VisibleMark v.style.mark) {f : Fault}
    (hf : v.validate = .error f) :
    ¬ v.KnownFormat ∧ f = .unknownFormat v.log.format ∨
      v.KnownFormat ∧ ¬ v.KnownLevel ∧ f = .unknownLevel v.log.level := by
  rcases v.validate_cases with ⟨hformat, heq⟩ | ⟨hformat, hlevel, heq⟩ | ⟨-, -, hmark, -⟩ |
    ⟨-, -, -, heq⟩
  · rw [heq] at hf
    exact .inl ⟨hformat, (Except.error.inj hf).symm⟩
  · rw [heq] at hf
    exact .inr ⟨hformat, hlevel, (Except.error.inj hf).symm⟩
  · exact absurd h hmark
  · rw [heq] at hf
    cases hf

end Settings

namespace Session

variable {s : Session}

/-! ### Runs that assign no mark -/

/-- The step assigns the mark, which is not checked. -/
def Step.AssignsMark : Step → Prop
  | .assign .mark _ => True
  | _ => False

theorem Step.ne_mark_of_assign {field : Settings.Field} {value : Value}
    (h : ¬ (Step.assign field value).AssignsMark) : field ≠ .mark := by
  rintro rfl
  exact h trivial

/-- Settings that are loaded have a visible mark. -/
def MarksVisibly (s : Session) : Prop := ∀ v, s.settings = some v → VisibleMark v.style.mark

theorem marksVisibly_initial (loader : Loader) (env : Environment) :
    (initial loader env).MarksVisibly := by
  intro v hv
  cases hv

theorem MarksVisibly.load (h : s.MarksVisibly) (path : Text) : (s.load path).1.MarksVisibly := by
  intro v hv
  cases hresult : (s.load path).2.1 with
  | ok w =>
    obtain ⟨hloaded, hmade⟩ := (s.settings_of_load path).1 w hresult
    rw [hloaded] at hv
    obtain rfl := Option.some.inj hv
    exact Settings.visibleMark_ofEnvironment hmade
  | error f =>
    rw [(s.settings_of_load path).2 f hresult] at hv
    exact h v hv

theorem MarksVisibly.assign (h : s.MarksVisibly) {field : Settings.Field} (hfield : field ≠ .mark)
    (value : Value) : (s.step (.assign field value)).1.MarksVisibly := by
  intro v hv
  rw [step] at hv
  cases hsettings : s.settings with
  | none =>
    rw [hsettings] at hv
    exact h v hv
  | some w =>
    rw [hsettings] at hv
    obtain rfl : w.assign value field = v := Option.some.inj hv
    rw [w.mark_assign value hfield]
    exact h w hsettings

theorem MarksVisibly.step (h : s.MarksVisibly) {a : Step} (ha : ¬ a.AssignsMark) :
    (s.step a).1.MarksVisibly := by
  by_cases hconfigures : a.Configures
  · cases a with
    | load path => exact h.load path
    | setVariable name value =>
      intro v hv
      have hkept : (s.step (.setVariable name value)).1.settings = s.settings := by
        rw [Session.step]
        split <;> rfl
      exact h v (hkept.symm.trans hv)
    | assign field value => exact h.assign (Step.ne_mark_of_assign ha) value
    | _ => cases hconfigures
  · intro v hv
    rw [(sameConfiguration_step s hconfigures).settings] at hv
    exact h v hv

theorem MarksVisibly.run (h : s.MarksVisibly) {steps : List Step}
    (hsteps : ∀ a ∈ steps, ¬ a.AssignsMark) : (s.run steps).1.MarksVisibly := by
  induction steps generalizing s with
  | nil => exact h
  | cons a steps ih =>
    obtain ⟨ha, hrest⟩ := List.forall_mem_cons.mp hsteps
    exact ih (h.step ha) hrest

/-! ### Steps that take the loaded settings -/

theorem refused_load {path : Text} {f : Fault} (h : (s.step (.load path)).2.result = .error f) :
    (s.step (.load path)).1.settings = s.settings :=
  (s.settings_of_load path).2 f (map_eq_error_iff.mp h)

theorem step_pointer {v : Settings} (h : s.settings = some v) (xs : Sequence) (index : Int)
    (headline : Value) :
    (s.step (.pointer ⟨.ok xs, index, .ok headline, .loaded⟩)).2.result =
      (pointAt xs index headline v.style).map .display := by
  show (s.pointerDraft _).map Answer.display = _
  rw [pointerDraft, style_of_loaded h]
  rfl

/-- With a visible mark and an index inside the sequence, only a headline that is no text is left
to refuse. -/
theorem pointer_of_visibleMark {v : Settings} (h : s.settings = some v)
    (hmark : VisibleMark v.style.mark) {xs : Sequence} {index : Int}
    (hinside : Inside xs.elements index) (headline : Value) :
    let result := (s.step (.pointer ⟨.ok xs, index, .ok headline, .loaded⟩)).2.result
    (∃ display, pointAt xs index headline v.style = .ok display ∧
        result = .ok (.display display)) ∨
      headline.truthy = true ∧ (∀ t, headline ≠ .text t) ∧
        result = .error (.notText 0 headline) := by
  intro result
  have hresult : result = (pointAt xs index headline v.style).map .display :=
    step_pointer h xs index headline
  cases hdisplay : pointAt xs index headline v.style with
  | ok display =>
    rw [hresult, hdisplay]
    exact .inl ⟨display, rfl, rfl⟩
  | error f =>
    rw [hresult, hdisplay]
    rcases pointAt_eq_error_iff.mp hdisplay with ⟨hnot, -⟩ | ⟨-, hnot, -⟩ |
      ⟨-, -, htrue, hnone, rfl⟩
    · exact absurd hmark hnot
    · exact absurd hinside hnot
    · exact .inr ⟨htrue, hnone, rfl⟩

/-- **Loaded settings have a visible mark.** Whatever the loader makes of files, whatever steps a run
takes, writing files, changing variables and loading among them, and whichever of them are refused,
its loaded settings have a mark that takes one visible column, if no step has assigned it; a load that
is refused leaves them. So `validate` refuses the format or the level only, and a display of the
loaded style, of any sequence at any index inside it, is made unless its headline is no text: it is
not refused as a value. -/
theorem loaded_mark_is_visible (loader : Loader) (env : Environment) {steps : List Step}
    (h : ∀ a ∈ steps, ¬ a.AssignsMark) :
    let s := ((initial loader env).run steps).1
    (∀ path f, (s.step (.load path)).2.result = .error f →
      (s.step (.load path)).1.settings = s.settings) ∧
    ∀ v, s.settings = some v →
      VisibleMark v.style.mark ∧
      (∀ f, (s.step .validate).2.result = .error f →
        ¬ v.KnownFormat ∧ f = .unknownFormat v.log.format ∨
          v.KnownFormat ∧ ¬ v.KnownLevel ∧ f = .unknownLevel v.log.level) ∧
      ∀ xs index headline, Inside xs.elements index →
        let reply := (s.step (.pointer ⟨.ok xs, index, .ok headline, .loaded⟩)).2
        ((∃ display, pointAt xs index headline v.style = .ok display ∧
            reply.result = .ok (.display display)) ∨
          headline.truthy = true ∧ (∀ t, headline ≠ .text t) ∧
            reply.result = .error (.notText 0 headline)) ∧
        ¬ reply.HasKind .value := by
  intro s
  have hmarks : s.MarksVisibly := (marksVisibly_initial loader env).run h
  refine ⟨fun path f => refused_load, fun v hv => ⟨hmarks v hv, fun f hf => ?_, ?_⟩⟩
  · rw [step_validate hv] at hf
    exact Settings.validate_of_visibleMark (hmarks v hv) (map_eq_error_iff.mp hf)
  · intro xs index headline hinside reply
    have hpointer := pointer_of_visibleMark hv (hmarks v hv) hinside headline
    refine ⟨hpointer, ?_⟩
    rintro ⟨f, hf, hkind⟩
    rcases hpointer with ⟨display, -, hshown⟩ | ⟨-, -, hrefused⟩
    · cases hf.symm.trans hshown
    · cases hf.symm.trans hrefused
      cases hkind

/-- The mark comes from a file. The next load finds a variable in its place that is no mark and is
refused, and the level that is assigned is none. -/
theorem loaded_mark_is_visible_refused :
    let path := text ".env"
    let steps : List Step := [.write path (text "DIAG_POINTER=*\n"), .load path,
      .setVariable (text "DIAG_POINTER") (some (text "ab")), .assign .logLevel (.int 7)]
    let s := ((initial EnvFile.loader []).run steps).1
    let draft : DiagnosticDraft := ⟨.ok (.text (text "a b")), 2, .ok .null, .loaded⟩
    (s.step (.load path)).2.result.isOk = false ∧
      (s.step (.load path)).1.settings = s.settings ∧
    ∃ v, s.settings = some v ∧ v.style.mark = .text (text "*") ∧ VisibleMark v.style.mark ∧
      (s.step .validate).2.result = .error (.unknownLevel v.log.level) ∧
      ∃ display, (s.step (.pointer draft)).2.result = .ok (.display display) := by
  intro path steps
  have hsteps : ∀ a ∈ steps, ¬ a.AssignsMark := by simp [steps, Step.AssignsMark]
  have hclaim := loaded_mark_is_visible EnvFile.loader [] hsteps
  have hrefused :
      (((initial EnvFile.loader []).run steps).1.step (.load path)).2.result.isOk = false := by
    decide +kernel
  have hinvalid :
      (((initial EnvFile.loader []).run steps).1.step .validate).2.result.isOk = false := by
    decide +kernel
  have hread : (((initial EnvFile.loader []).run steps).1.settings.any fun v =>
      v.style.mark.same (.text (text "*")) && v.log.format.same (.text (text "text"))) = true := by
    decide +kernel
  -- from here on nothing is computed, and the state of the run is any that reads so
  generalize ((initial EnvFile.loader []).run steps).1 = s at hclaim hrefused hinvalid hread ⊢
  intro s draft
  obtain ⟨v, hv, hsame⟩ := (Option.any_eq_true ..).mp hread
  obtain ⟨hmark, hformat⟩ := Bool.and_eq_true_iff.mp hsame
  obtain ⟨hloads, hloaded⟩ := hclaim
  obtain ⟨hvisible, hvalidate, hdisplays⟩ := hloaded v hv
  obtain ⟨f, hf⟩ := exists_error_of_isOk hrefused
  obtain ⟨g, hg⟩ := exists_error_of_isOk hinvalid
  refine ⟨hrefused, hloads path f hf, v, hv, Value.same_text_iff.mp hmark, hvisible, ?_, ?_⟩
  · rcases hvalidate g hg with ⟨hunknown, -⟩ | ⟨-, -, rfl⟩
    · exact absurd (.inl (Value.same_text_iff.mp hformat)) hunknown
    · exact hg
  · rcases (hdisplays (.text (text "a b")) 2 .null (by decide)).1 with
      ⟨display, -, hdisplay⟩ | ⟨htrue, -⟩
    · exact ⟨display, hdisplay⟩
    · cases htrue

end Session

end Caret

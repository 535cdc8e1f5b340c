import Caret.Proofs.CapitalForms
import Caret.Proofs.HiddenLoggers
import Caret.Proofs.SetupRuns

/-!
# Levels of a setup

A setup looks its level up by a name that is capital already and is made capital once more for the
root. Both look-ups find the same, so a setup warns just where the root gets the level it falls back
to. Main statement: what a setup that does not fail installs, and all that it writes.
-/

namespace Caret

theorem LogSettings.upper_levelName (ls : LogSettings) : ls.levelName.upper = ls.levelName :=
  Text.upper_upper ls.level.display

namespace Level

theorem ofName_levelName (ls : LogSettings) :
    ofName ls.levelName = (names.lookup ls.levelName).getD info := by
  rw [ofName, ls.upper_levelName]

theorem isName_iff {t : Text} : isName t = true ↔ ∃ level, names.lookup t = some level :=
  Option.isSome_iff_exists

theorem ofName_of_not_isName {ls : LogSettings} (h : ¬ isName ls.levelName = true) :
    ofName ls.levelName = info := by
  rw [ofName_levelName, Option.not_isSome_iff_eq_none.mp h, Option.getD_none]

end Level

namespace Loggers

variable (l : Loggers) (name : Text) (level : Int)

/-- Without remembered verdicts a logger is asked anew, and its verdict leaves the tree as it is. -/
theorem judge_of_forgotten (h : l.verdicts = []) :
    (l.judge name level).2 = (l.judge name level).1.passes name level := by
  obtain ⟨hroot, hknown, hdisabled⟩ := judge_keeps l name level
  rw [verdict_judge, h, passes_eq hdisabled (effective_of_known_eq hroot hknown name)]
  rfl

end Loggers

/-! ### Plain conversions -/

/-- A conversion that asks for nothing but text writes the next argument as it is shown. -/
theorem Conversion.fill_display (entries : Option (List (Value × Value))) (v : Value)
    (rest : List Value) (offset : Nat) :
    Conversion.fill ⟨none, [], none, none, some (CodePoint.ofChar 's'), offset⟩
      ⟨entries, v :: rest⟩ = .ok (v.display, ⟨entries, rest⟩) := by
  have hwrite : WriteStyle.write ⟨[], false, 0, none⟩ (CodePoint.ofChar 's') offset v =
      .ok v.display := by
    simp [WriteStyle.write, WriteStyle.writeText, WriteStyle.pad, Text.padLeft]
  simp only [fill, Supply.select, Supply.width, Supply.precision, Supply.take, bind, Except.bind]
  exact congrArg (fun r : Except Fault Text => r.bind fun t => pure (t, (⟨entries, rest⟩ : Supply)))
    hwrite

/-- One argument is taken as a whole, be it a dictionary or not. -/
theorem Message.exists_supply (v : Value) : ∃ entries, supply [v] = ⟨entries, [v]⟩ := by
  cases v with
  | dictionary es =>
    cases es with
    | nil => exact ⟨none, rfl⟩
    | cons e es => exact ⟨some (e :: es), rfl⟩
  | _ => exact ⟨none, rfl⟩

namespace Session

open Handler

variable {s : Session} {ls : LogSettings} {origin : Origin}

/-! ### The warning -/

/-- The record warns that a level has no name, and tells nothing else. -/
structure WarnsOf (origin : Origin) (v : Value) (r : Record) : Prop where
  origin : r.origin = origin
  level : r.level = Level.warning
  levelName : r.levelName = Caret.text "WARNING"
  logger : r.logger = libraryLogger
  text : r.text =
    .ok (Caret.text "Invalid log level '" ++ v.display ++ Caret.text "'; defaulting to INFO")
  fields : r.fields = none
  failure : r.failure = none
  notes : r.notes = .blank

theorem warnsOf_levelWarning (origin : Origin) (ls : LogSettings) :
    WarnsOf origin ls.level (record origin libraryLogger (levelWarning ls)) where
  origin := rfl
  level := rfl
  levelName := rfl
  logger := rfl
  text := by
    have hparse : Template.parse (text "Invalid log level '%s'; defaulting to INFO") =
        [.literal (text "Invalid log level '"),
          .conversion ⟨none, [], none, none, some (CodePoint.ofChar 's'), 20⟩,
          .literal (text "'; defaulting to INFO")] := by rfl
    obtain ⟨entries, hsupply⟩ := Message.exists_supply ls.level
    show Message.expand (text "Invalid log level '%s'; defaulting to INFO") [ls.level] = _
    rw [Message.expand, hparse, hsupply]
    simp [Template.fill, Template.fillFrom, Conversion.fill_display, Except.map, bind,
      Except.bind, pure, Except.pure]
  fields := rfl
  failure := rfl
  notes := rfl

/-! ### What is installed -/

theorem loggers_log (s : Session) (origin : Origin) (logger : Text) (e : Event) :
    (s.log origin logger e).1.loggers = ((s.loggers.ensure logger).judge logger e.level).1 := by
  rw [log, pass, judge_eq]
  cases ((s.ask logger).loggers.judge logger e.level).2 <;> rfl

theorem handlers_log (s : Session) (origin : Origin) (logger : Text) (e : Event) :
    (s.log origin logger e).1.handlers = s.handlers := by
  obtain ⟨loggers, r, -, hlog⟩ := exists_log s.loggers origin logger e
  rw [hlog s rfl, conclude_handlers]

theorem log_of_silent {logger : Text} {e : Event}
    (h : ((s.ask logger).judge logger e.level).2 = false) (origin : Origin) :
    (s.log origin logger e).2 = .empty := by
  rw [judge_eq] at h
  rw [log, pass, judge_eq, h]

/-- With nothing remembered a record is handed over if its logger passes it afterwards. -/
theorem log_of_forgotten (h : s.loggers.verdicts = []) (origin : Origin) (logger : Text)
    (e : Event) : (s.log origin logger e).2 =
      if (s.log origin logger e).1.loggers.passes logger e.level then
        (deliver s.handlers (record origin logger e)).1 else .empty := by
  have hforgotten : (s.loggers.ensure logger).verdicts = [] := by
    rw [Loggers.verdicts_ensure, h]
  rw [loggers_log, ← Loggers.judge_of_forgotten _ _ _ hforgotten]
  split
  · next hpass => exact log_of_passed hpass origin
  · next hpass => exact log_of_silent (Bool.eq_false_iff.mpr hpass) origin

/-- What a setup installs, and all that it writes. -/
structure Installs (origin : Origin) (ls : LogSettings) (next : Session) (o : Output) : Prop where
  handlers : next.handlers = handlersFor ls ls.place?
  named : ∀ level, Level.names.lookup ls.levelName = some level →
    next.loggers.root = level ∧ Opening ls o
  unnamed : Level.names.lookup ls.levelName = none → next.loggers.root = Level.info ∧
    ∃ opened r, Opening ls opened ∧ WarnsOf origin ls.level r ∧
      o = opened ++ if next.loggers.passes libraryLogger Level.warning then
        (deliver next.handlers r).1 else .empty

theorem install_of_isName (h : Level.isName ls.levelName = true) (file : Option Place) :
    s.install origin ls file = ({ s with
      handlers := handlersFor ls file
      loggers := s.loggers.setRoot (Level.ofName ls.levelName) }, .empty) := if_pos h

theorem install_of_not_isName (h : ¬ Level.isName ls.levelName = true) (file : Option Place) :
    s.install origin ls file = Session.log { s with
      handlers := handlersFor ls file
      loggers := s.loggers.setRoot Level.info } origin libraryLogger (levelWarning ls) := by
  rw [install, if_neg h, Level.ofName_of_not_isName h]

/-- **The root gets the level of the name, or the setup warns and the root gets `info`.** Beside the
warning a setup writes nothing. -/
theorem setup_installs {next : Session} {o : Output} (h : s.setup origin ls = (next, .ok o)) :
    Installs origin ls next o := by
  obtain ⟨files, opened, ⟨-, -, hopening⟩, rfl, rfl⟩ := setup_eq_ok h
  by_cases hname : Level.isName ls.levelName = true
  · obtain ⟨level, hlevel⟩ := Level.isName_iff.mp hname
    rw [install_of_isName hname]
    refine ⟨rfl, fun level' hlevel' => ⟨?_, ?_⟩, fun hnone => ?_⟩
    · show Level.ofName ls.levelName = level'
      rw [Level.ofName_levelName, hlevel', Option.getD_some]
    · rwa [Output.append_empty]
    · rw [hnone] at hlevel
      cases hlevel
  · rw [install_of_not_isName hname]
    refine ⟨handlers_log .., fun level hlevel => ?_, fun _ => ⟨?_, ?_⟩⟩
    · exact absurd (Level.isName_iff.mpr ⟨level, hlevel⟩) hname
    · rw [loggers_log, (Loggers.judge_keeps ..).1, Loggers.root_ensure]
      rfl
    · refine ⟨opened, _, hopening, warnsOf_levelWarning origin ls, ?_⟩
      rw [log_of_forgotten rfl, handlers_log]
      rfl

end Session

end Caret

import Caret.Proofs.FileBindings
import Caret.Proofs.HandedRecords

/-!
# Environments in a run

A load fills the gaps of the environment, and no other step but the setting of a variable changes it.
The loader is any one that sets what is missing. Main statement: in a run that sets no variable, a
key that the environment has keeps its value, and any other key gets the value that the first load to
bind it binds. The settings of a load are read from the environment as it is then, and a load that is
repeated changes nothing of them.
-/

namespace Caret

/-! ### Adding variables -/

namespace Environment

/-- The environment has the key, or can take it. -/
def takes (env : Environment) (e : Text × Text) : Bool :=
  (env.get? e.1).isSome || (check e.1 e.2).isOk

theorem add_of_isSome {env : Environment} {name : Text} (value : Text)
    (h : (env.get? name).isSome = true) : env.add name value = .ok env := by
  rw [add, if_pos h]

theorem isOk_add (env : Environment) (e : Text × Text) : (env.add e.1 e.2).isOk = env.takes e := by
  unfold add takes
  by_cases h : (env.get? e.1).isSome = true
  · rw [if_pos h, h]
    rfl
  · rw [if_neg h, Bool.eq_false_iff.mpr h, Bool.false_or]
    cases check e.1 e.2 <;> rfl

/-- The keys that are still to come are not the one that has been added. -/
theorem same_of_add {first env added : Environment} {name value : Text} {es : List (Text × Text)}
    (hadd : env.add name value = .ok added) (hnew : name ∉ es.map Prod.fst)
    (hsame : ∀ e ∈ es, env.get? e.1 = first.get? e.1) :
    ∀ e ∈ es, added.get? e.1 = first.get? e.1 := by
  intro e he
  have hne : e.1 ≠ name := fun h => hnew (List.mem_map.mpr ⟨e, he, h⟩)
  rw [get?_add hadd, if_neg hne, Option.or_none, hsame e he]

/-- What is there stays, and the others are added up to the first that cannot be a variable. -/
theorem get?_addAll {first env : Environment} {es : List (Text × Text)}
    (hnames : (es.map Prod.fst).Nodup) (hsame : ∀ e ∈ es, env.get? e.1 = first.get? e.1)
    (key : Text) :
    (env.addAll es).1.get? key = (env.get? key).or ((es.takeWhile first.takes).lookup key) := by
  induction es generalizing env with
  | nil => exact (Option.or_none).symm
  | cons e es ih =>
    obtain ⟨name, value⟩ := e
    obtain ⟨hnew, hlater⟩ := List.nodup_cons.mp hnames
    obtain ⟨hhead, htail⟩ := List.forall_mem_cons.mp hsame
    have htaken : first.takes (name, value) = env.takes (name, value) := by
      rw [takes, takes, hhead]
    have hok := isOk_add env (name, value)
    rw [addAll, List.takeWhile_cons, htaken, ← hok]
    dsimp only at hok ⊢
    cases hadd : env.add name value with
    | error f => exact (Option.or_none).symm
    | ok added =>
      dsimp only
      rw [ih hlater (same_of_add hadd hnew htail), get?_add hadd, Option.or_assoc]
      refine congrArg (Option.or _) ?_
      show _ = List.lookup key ((name, value) :: _)
      rw [List.lookup_cons]
      by_cases hkey : key = name
      · rw [if_pos hkey, beq_iff_eq.mpr hkey]
        rfl
      · rw [if_neg hkey, beq_eq_false_iff_ne.mpr hkey]
        rfl

/-- Where nothing is refused, all is taken. -/
theorem takeWhile_of_addAll_ok {first env : Environment} {es : List (Text × Text)}
    (hnames : (es.map Prod.fst).Nodup) (hsame : ∀ e ∈ es, env.get? e.1 = first.get? e.1)
    (h : (env.addAll es).2 = .ok ()) : es.takeWhile first.takes = es := by
  induction es generalizing env with
  | nil => rfl
  | cons e es ih =>
    obtain ⟨name, value⟩ := e
    obtain ⟨hnew, hlater⟩ := List.nodup_cons.mp hnames
    obtain ⟨hhead, htail⟩ := List.forall_mem_cons.mp hsame
    rw [addAll] at h
    cases hadd : env.add name value with
    | error f =>
      rw [hadd] at h
      cases h
    | ok added =>
      rw [hadd] at h
      have htaken : first.takes (name, value) = true := by
        have hok := isOk_add env (name, value)
        rw [takes, ← hhead]
        rw [hadd] at hok
        exact hok.symm
      rw [List.takeWhile_cons_of_pos htaken, ih hlater (same_of_add hadd hnew htail) h]

/-- Nothing is added where nothing is missing. -/
theorem addAll_of_filled {env : Environment} {es : List (Text × Text)}
    (h : ∀ name ∈ es.map Prod.fst, (env.get? name).isSome = true) :
    env.addAll es = (env, .ok ()) := by
  induction es with
  | nil => rfl
  | cons e es ih =>
    obtain ⟨name, value⟩ := e
    obtain ⟨hhead, hrest⟩ := List.forall_mem_cons.mp h
    rw [addAll, add_of_isSome value hhead]
    exact ih hrest

/-- A key is there once it is added. -/
theorem isSome_get?_of_addAll {env : Environment} {es : List (Text × Text)}
    (hnames : (es.map Prod.fst).Nodup) (h : (env.addAll es).2 = .ok ()) :
    ∀ name ∈ es.map Prod.fst, ((env.addAll es).1.get? name).isSome = true := by
  intro name hname
  obtain ⟨e, he, rfl⟩ := List.mem_map.mp hname
  have hfound : (es.lookup e.1).isSome = true := by
    rw [Option.isSome_iff_ne_none]
    intro hnone
    have hne := List.lookup_eq_none_iff.mp hnone _ he
    simp at hne
  rw [get?_addAll hnames (fun _ _ => rfl), takeWhile_of_addAll_ok hnames (fun _ _ => rfl) h]
  cases env.get? e.1 with
  | none => exact hfound
  | some v => rfl

end Environment

/-! ### Settings -/

/-- The settings that some variables ask for: each part is the value of its variable, or the
default where the variable is missing. No log file is asked for by the empty text. -/
structure Settings.AskedBy (get : Text → Option Text) (v : Settings) : Prop where
  level : v.log.level = .text ((get (text "LOG_LEVEL")).getD (text "INFO"))
  format : v.log.format = .text ((get (text "LOG_FORMAT")).getD (text "text")).lower
  file : v.log.file = match get (text "LOG_FILE") with
    | none | some [] => .null
    | some path => .text path
  color : v.log.color = .bool (Environment.isOn ((get (text "LOG_COLOR")).getD (text "True")))
  mark : v.style.mark = .text ((get (text "DIAG_POINTER")).getD (text "^"))
  lineNumbers : v.style.lineNumbers =
    .bool (Environment.isOn ((get (text "DIAG_LINE_NUMBERS")).getD (text "True")))

theorem Settings.askedBy_ofEnvironment {env : Environment} {v : Settings}
    (h : Settings.ofEnvironment env = .ok v) : v.AskedBy env.get? := by
  unfold ofEnvironment PointerStyle.make at h
  cases hmark : checkMark (.text ((env.get? (text "DIAG_POINTER")).getD (text "^"))) with
  | error f =>
    rw [hmark] at h
    cases h
  | ok p =>
    rw [hmark] at h
    cases h
    exact ⟨rfl, rfl, rfl, rfl, rfl, rfl⟩

namespace Session

variable {s : Session}

/-! ### Loads -/

section Reading

variable (reading : Loader.Reading)

/-- What a load of a path binds: the keys of the file, up to the first that cannot be a variable. -/
def bindings (s : Session) (path : Text) : List (Text × Text) :=
  if reading.disabled s.environment then []
  else
    match s.files.read? path with
    | .ok content =>
      (reading.parse s.environment (content.getD [])).takeWhile s.environment.takes
    | .error _ => []

variable {reading} (hloader : s.loader.SetsMissing reading)
include hloader

theorem get?_fill (path key : Text) : (s.fill path).environment.get? key =
    (s.environment.get? key).or ((s.bindings reading path).lookup key) := by
  unfold fill bindings
  cases hdisabled : reading.disabled s.environment with
  | true =>
    rw [(hloader.disabled _ _ hdisabled).1, if_pos rfl]
    exact (Option.or_none).symm
  | false =>
    rw [if_neg Bool.false_ne_true]
    cases s.files.read? path with
    | error f =>
      rw [(hloader.unreadable _ f hdisabled).1]
      exact (Option.or_none).symm
    | ok content =>
      rw [(hloader.sets _ content hdisabled).1]
      exact Environment.get?_addAll (hloader.nodup_keys _ _) (fun _ _ => rfl) key

/-- A fill that is not refused has read the file and binds every key of it. -/
theorem bindings_of_fill_ok {path : Text} (h : (s.fill path).result = .ok ())
    (henabled : reading.disabled s.environment = false) :
    ∃ content, s.files.read? path = .ok content ∧
      (s.environment.addAll (reading.parse s.environment (content.getD []))).2 = .ok () ∧
      s.bindings reading path = reading.parse s.environment (content.getD []) := by
  rw [bindings, if_neg (Bool.eq_false_iff.mp henabled)]
  unfold fill at h
  cases hread : s.files.read? path with
  | error f =>
    rw [hread, (hloader.unreadable _ f henabled).2] at h
    cases h
  | ok content =>
    rw [hread, (hloader.sets _ content henabled).2] at h
    have hadded := mapError_eq_ok_iff.mp h
    exact ⟨content, rfl, hadded,
      Environment.takeWhile_of_addAll_ok (hloader.nodup_keys _ _) (fun _ _ => rfl) hadded⟩

/-- Filling again adds nothing, also where the file has disabled it. -/
theorem fill_again {t : Session} {path : Text} (h : (s.fill path).result = .ok ())
    (hsame : t.loader = s.loader) (henv : t.environment = (s.fill path).environment)
    (hfile : t.files.read? path = s.files.read? path) :
    (t.fill path).environment = t.environment ∧ (t.fill path).result = .ok () := by
  unfold fill at h henv ⊢
  rw [hsame, hfile]
  cases hagain : reading.disabled t.environment with
  | true => exact hloader.disabled _ _ hagain
  | false =>
    cases hbefore : reading.disabled s.environment with
    | true =>
      -- the first fill has left the environment as it was, and so disabled
      rw [(hloader.disabled _ _ hbefore).1] at henv
      rw [henv, hbefore] at hagain
      cases hagain
    | false =>
      obtain ⟨content, hread, hadded, -⟩ := bindings_of_fill_ok hloader h hbefore
      rw [hread] at henv ⊢
      rw [(hloader.sets _ content hbefore).1] at henv
      have hfilled : t.environment.addAll (reading.parse t.environment (content.getD [])) =
          (t.environment, .ok ()) := by
        refine Environment.addAll_of_filled ?_
        rw [hloader.keys_eq _ s.environment, henv]
        exact Environment.isSome_get?_of_addAll (hloader.nodup_keys _ _) hadded
      rw [(hloader.sets _ content hagain).1, (hloader.sets _ content hagain).2, hfilled]
      exact ⟨rfl, rfl⟩

end Reading

theorem environment_load (s : Session) (path : Text) :
    (s.load path).1.environment = (s.fill path).environment := by
  obtain ⟨files, loggers, hload⟩ := s.exists_load path
  rw [hload]

theorem settings_load (s : Session) (path : Text) :
    (s.load path).1.settings = (s.settingsAfter path).toOption.or s.settings := by
  obtain ⟨files, loggers, hload⟩ := s.exists_load path
  rw [hload]

theorem result_load (s : Session) (path : Text) : (s.load path).2.1 = s.settingsAfter path := by
  rw [load_eq]

theorem loader_load (s : Session) (path : Text) : (s.load path).1.loader = s.loader := by
  obtain ⟨files, loggers, hload⟩ := s.exists_load path
  rw [hload]

/-- Settings are refused where the loader is, or where they cannot be read from the environment. -/
theorem settingsAfter_eq_ok {path : Text} {v : Settings} (h : s.settingsAfter path = .ok v) :
    (s.fill path).result = .ok () ∧ Settings.ofEnvironment (s.fill path).environment = .ok v := by
  obtain ⟨_, hresult, hsettings⟩ := bind_eq_ok_iff.mp h
  exact ⟨hresult, hsettings⟩

/-- A load that is not refused has the settings in the environment, and another one changes none. -/
theorem settings_of_load (s : Session) (path : Text) :
    (∀ v, (s.load path).2.1 = .ok v → (s.load path).1.settings = some v ∧
      Settings.ofEnvironment (s.load path).1.environment = .ok v) ∧
    ∀ f, (s.load path).2.1 = .error f → (s.load path).1.settings = s.settings := by
  rw [result_load, settings_load, environment_load]
  refine ⟨fun v hv => ?_, fun f hf => ?_⟩
  · rw [hv]
    exact ⟨rfl, (settingsAfter_eq_ok hv).2⟩
  · rw [hf]
    rfl

/-- How a load fills the gaps of the environment and reads the settings from it. -/
structure FillsGaps (reading : Loader.Reading) (s : Session) (path : Text) : Prop where
  environment : ∀ key, (s.load path).1.environment.get? key =
    (s.environment.get? key).or ((s.bindings reading path).lookup key)
  whole : (s.fill path).result = .ok () → reading.disabled s.environment = false →
    ∃ content, s.files.read? path = .ok content ∧
      s.bindings reading path = reading.parse s.environment (content.getD [])
  loaded : ∀ v, (s.load path).2.1 = .ok v → (s.load path).1.settings = some v ∧
    Settings.ofEnvironment (s.load path).1.environment = .ok v ∧
    v.AskedBy fun key => (s.environment.get? key).or ((s.bindings reading path).lookup key)
  refused : ∀ f, (s.load path).2.1 = .error f → (s.load path).1.settings = s.settings
  badPointer : ∀ mark, (s.load path).2.1 = .error (.badPointer mark) →
    (s.fill path).result = .ok ()
  again : (s.fill path).result = .ok () →
    (s.load path).1.files.read? path = s.files.read? path →
    let t := (s.load path).1
    (t.load path).1.environment = t.environment ∧ (t.load path).1.settings = t.settings ∧
      (t.load path).2.1 = (s.load path).2.1

/-- Faults of the loader are not those of a mark. -/
theorem result_of_badPointer {reading : Loader.Reading} (hloader : s.loader.SetsMissing reading)
    {path : Text} {mark : Value} (h : s.settingsAfter path = .error (.badPointer mark)) :
    (s.fill path).result = .ok () := by
  cases hresult : (s.fill path).result with
  | ok u => rfl
  | error f =>
    rw [settingsAfter, hresult] at h
    cases h
    unfold fill at hresult
    cases hdisabled : reading.disabled s.environment with
    | true =>
      rw [(hloader.disabled _ _ hdisabled).2] at hresult
      cases hresult
    | false =>
      cases hread : s.files.read? path with
      | error g =>
        rw [hread, (hloader.unreadable _ g hdisabled).2] at hresult
        cases hresult
      | ok content =>
        rw [hread, (hloader.sets _ content hdisabled).2] at hresult
        obtain ⟨g, -, hg⟩ := mapError_eq_error_iff.mp hresult
        cases hg

theorem fillsGaps_load {reading : Loader.Reading} (hloader : s.loader.SetsMissing reading)
    (path : Text) : FillsGaps reading s path where
  environment key := by rw [environment_load, get?_fill hloader]
  whole hfill henabled := by
    obtain ⟨content, hread, -, hbindings⟩ := bindings_of_fill_ok hloader hfill henabled
    exact ⟨content, hread, hbindings⟩
  loaded v hv := by
    obtain ⟨hsettings, hread⟩ := (s.settings_of_load path).1 v hv
    have hget : (s.load path).1.environment.get? =
        fun key => (s.environment.get? key).or ((s.bindings reading path).lookup key) := by
      rw [environment_load]
      exact funext (get?_fill hloader path)
    exact ⟨hsettings, hread, hget ▸ Settings.askedBy_ofEnvironment hread⟩
  refused := (s.settings_of_load path).2
  badPointer mark hmark := result_of_badPointer hloader ((s.result_load path).symm.trans hmark)
  again hfill hfile := by
    obtain ⟨henv, hresult⟩ := fill_again hloader (t := (s.load path).1) hfill (s.loader_load path)
      (s.environment_load path) hfile
    have hsame : (s.load path).1.settingsAfter path = s.settingsAfter path := by
      rw [settingsAfter, settingsAfter, hresult, hfill, henv, environment_load]
    refine ⟨(environment_load _ path).trans henv, ?_, ?_⟩
    · rw [settings_load, hsame, settings_load]
      cases (s.settingsAfter path).toOption <;> rfl
    · rw [result_load, result_load, hsame]

/-! ### Runs -/

/-- The step sets or takes away a variable. -/
def Step.SetsVariable : Step → Prop
  | .setVariable .. => True
  | _ => False

/-- What a step binds, which is nothing unless it is a load. -/
def bound (reading : Loader.Reading) (s : Session) : Step → List (Text × Text)
  | .load path => s.bindings reading path
  | _ => []

/-- The value of a key that the first load to bind it binds. -/
def firstBinding (reading : Loader.Reading) (key : Text) (s : Session) : List Step → Option Text
  | [] => none
  | a :: steps =>
    ((s.bound reading a).lookup key).or (firstBinding reading key (s.step a).1 steps)

/-- The step may change the environment or the loaded settings. -/
def Step.Configures : Step → Prop
  | .load _ | .setVariable .. | .assign .. => True
  | _ => False

/-- The loader, the environment and the loaded settings are those of the session before. -/
structure SameConfiguration (s next : Session) : Prop where
  loader : next.loader = s.loader
  environment : next.environment = s.environment
  settings : next.settings = s.settings

theorem sameConfiguration_conclude (s : Session) (loggers : Loggers) (r : Option Record) :
    SameConfiguration s (s.conclude loggers r).1 := by
  cases r <;> exact ⟨rfl, rfl, rfl⟩

theorem sameConfiguration_setup (s : Session) (origin : Origin) (ls : LogSettings) :
    SameConfiguration s (s.setup origin ls).1 := by
  unfold setup
  split
  · exact ⟨rfl, rfl, rfl⟩
  · next path _ =>
    cases openLog s.files path with
    | mk files opened =>
      cases opened with
      | error f => exact ⟨rfl, rfl, rfl⟩
      | ok made =>
        unfold install
        dsimp only
        split
        · exact ⟨rfl, rfl, rfl⟩
        · obtain ⟨loggers, r, -, hlog⟩ := exists_log (s.loggers.setRoot (Level.ofName ls.levelName))
            origin libraryLogger (levelWarning ls)
          rw [hlog _ rfl]
          obtain ⟨hloader, henvironment, hsettings⟩ := sameConfiguration_conclude _ loggers r
          exact ⟨hloader, henvironment, hsettings⟩

/-- Writing, logging and setting up leave the configuration alone. -/
theorem sameConfiguration_step (s : Session) {a : Step} (h : ¬a.Configures) :
    SameConfiguration s (s.step a).1 := by
  have hlogs : a.Logs → SameConfiguration s (s.step a).1 := by
    intro ha
    obtain ⟨loggers, r, result, -, hstep⟩ := exists_conclude s ha
    rw [hstep s rfl rfl]
    exact sameConfiguration_conclude s loggers r
  cases a with
  | failed f => exact ⟨rfl, rfl, rfl⟩
  | write path content => exact ⟨rfl, rfl, rfl⟩
  | load path => exact absurd trivial h
  | environment => exact ⟨rfl, rfl, rfl⟩
  | setVariable name value => exact absurd trivial h
  | assign field value => exact absurd trivial h
  | validate => exact ⟨rfl, rfl, rfl⟩
  | setup origin choice =>
    rw [step]
    cases s.logSettings choice with
    | error f => exact ⟨rfl, rfl, rfl⟩
    | ok ls =>
      have hsetup := sameConfiguration_setup s origin ls
      dsimp only
      cases hpair : s.setup origin ls with
      | mk next result =>
        rw [hpair] at hsetup
        cases result with
        | error f => exact hsetup
        | ok o => exact hsetup
  | log origin logger event => exact hlogs trivial
  | report origin verdict logger draft => exact hlogs trivial
  | pointer draft => exact ⟨rfl, rfl, rfl⟩
  | setLevel logger level => exact ⟨rfl, rfl, rfl⟩
  | disable level => exact ⟨rfl, rfl, rfl⟩

/-- The loader stays, whatever is done. -/
theorem loader_step (s : Session) (a : Step) : (s.step a).1.loader = s.loader := by
  by_cases hconfigures : a.Configures
  · cases a with
    | load path => exact s.loader_load path
    | setVariable name value =>
      rw [step]
      split <;> rfl
    | assign field value =>
      rw [step]
      cases s.settings <;> rfl
    | _ => cases hconfigures
  · exact (sameConfiguration_step s hconfigures).loader

theorem loader_run (s : Session) (steps : List Step) : (s.run steps).1.loader = s.loader := by
  induction steps generalizing s with
  | nil => rfl
  | cons a steps ih => exact (ih (s.step a).1).trans (s.loader_step a)

section Reading

variable {reading : Loader.Reading} (hloader : s.loader.SetsMissing reading)

theorem bound_of_not_configures (s : Session) {a : Step} (h : ¬a.Configures) :
    s.bound reading a = [] := by
  cases a with
  | load path => exact absurd trivial h
  | _ => rfl

include hloader

/-- Only a load adds to the environment. -/
theorem environment_step {a : Step} (h : ¬a.SetsVariable) (key : Text) :
    (s.step a).1.environment.get? key =
      (s.environment.get? key).or ((s.bound reading a).lookup key) := by
  by_cases hconfigures : a.Configures
  · cases a with
    | load path => exact (fillsGaps_load hloader path).environment key
    | setVariable name value => exact absurd trivial h
    | assign field value =>
      have hkept : (s.step (.assign field value)).1.environment = s.environment := by
        rw [step]
        cases s.settings <;> rfl
      rw [hkept]
      exact (Option.or_none).symm
    | _ => cases hconfigures
  · rw [(sameConfiguration_step s hconfigures).environment, bound_of_not_configures s hconfigures]
    exact (Option.or_none).symm

theorem environment_run {steps : List Step} (h : ∀ a ∈ steps, ¬a.SetsVariable) (key : Text) :
    (s.run steps).1.environment.get? key =
      (s.environment.get? key).or (s.firstBinding reading key steps) := by
  induction steps generalizing s with
  | nil => exact (Option.or_none).symm
  | cons a steps ih =>
    obtain ⟨ha, hsteps⟩ := List.forall_mem_cons.mp h
    have hnext : (s.step a).1.loader.SetsMissing reading := s.loader_step a ▸ hloader
    show ((s.step a).1.run steps).1.environment.get? key = _
    rw [ih hnext hsteps, environment_step hloader ha, Option.or_assoc]
    rfl

end Reading

/-- **The first to write a variable wins.** Let the loader set what is missing. In a run that sets no
variable, a key that is in the environment keeps its value, and any other key has the value that the
first load to bind it binds. No step takes a key away or changes its value, and each load of the run
fills the gaps. -/
theorem first_writer_wins {reading : Loader.Reading} {s : Session}
    (hloader : s.loader.SetsMissing reading) {steps : List Step}
    (h : ∀ a ∈ steps, ¬a.SetsVariable) :
    (∀ key, (s.run steps).1.environment.get? key =
      (s.environment.get? key).or (s.firstBinding reading key steps)) ∧
    ∀ before a after, steps = before ++ a :: after →
      (∀ key value, (s.run before).1.environment.get? key = some value →
        ((s.run before).1.step a).1.environment.get? key = some value) ∧
      ∀ path, a = .load path → FillsGaps reading (s.run before).1 path := by
  refine ⟨environment_run hloader h, ?_⟩
  rintro before a after rfl
  have hbefore : (s.run before).1.loader.SetsMissing reading := s.loader_run before ▸ hloader
  refine ⟨fun key value hkey => ?_, fun path _ => fillsGaps_load hbefore path⟩
  have ha := h a (List.mem_append_right before List.mem_cons_self)
  rw [environment_step hbefore ha, hkey]
  rfl

/-- A variable that is there with an empty value hides that of the file, and a file that is written
anew does not change what the first load has bound. -/
theorem first_writer_wins_rewritten :
    let start := initial EnvFile.loader [(text "LOG_LEVEL", [])]
    let path := text ".env"
    let steps : List Step :=
      [.write path (text "LOG_LEVEL=DEBUG\nLOG_FORMAT=JSON\n"), .load path,
        .write path (text "LOG_FORMAT=text\nDIAG_POINTER=ab\n"), .load path]
    let s := (start.run steps).1
    s.environment.get? (text "LOG_LEVEL") = some [] ∧
      s.environment.get? (text "LOG_FORMAT") = some (text "JSON") ∧
      s.environment.get? (text "DIAG_POINTER") = some (text "ab") ∧
      FillsGaps EnvFile.reading s path := by
  intro start path steps s
  have hloader : start.loader.SetsMissing EnvFile.reading := EnvFile.setsMissing_loader
  have hquiet : ∀ a ∈ steps, ¬a.SetsVariable := by simp [steps, Step.SetsVariable]
  have hagain : ∀ a ∈ steps ++ [.load path], ¬a.SetsVariable := by simp [steps, Step.SetsVariable]
  obtain ⟨hfirst, -⟩ := first_writer_wins hloader hquiet
  obtain ⟨-, hloads⟩ := first_writer_wins hloader hagain
  refine ⟨(hfirst _).trans ?_, (hfirst _).trans ?_, (hfirst _).trans ?_,
    (hloads steps (.load path) [] rfl).2 path rfl⟩
  · decide +kernel
  · decide +kernel
  · decide +kernel

end Session

end Caret

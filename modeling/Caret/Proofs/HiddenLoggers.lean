import Caret.Proofs.LoggerTrees

/-!
# Hidden loggers

Two trees of loggers of which one holds further loggers, all with steady names and without a level of
their own. A verdict on a steady name that is remembered is the one that would be found now, so it
does not matter who asked first. Main statement: asking for a logger, its verdicts and every change of
a level keep two such trees alike, and both give the same verdicts.
-/

namespace Caret.Loggers

/-! ### Parts of the state -/

section Parts

variable (l : Loggers) (name : Text)

theorem root_ensure : (l.ensure name).root = l.root := by
  unfold ensure
  split <;> rfl

theorem disabled_ensure : (l.ensure name).disabled = l.disabled := by
  unfold ensure
  split <;> rfl

theorem verdicts_ensure : (l.ensure name).verdicts = l.verdicts := by
  unfold ensure
  split <;> rfl

/-- Effective levels do not depend on the verdicts, nor on what is silenced. -/
theorem effective_of_known_eq {l m : Loggers} (hroot : l.root = m.root) (hknown : l.known = m.known)
    (name : Text) : l.effective name = m.effective name := by
  have hwithin : ∀ depth o, l.levelWithin depth o = m.levelWithin depth o := by
    intro depth
    induction depth with
    | zero =>
      intro o
      cases o with
      | none => exact hroot
      | some name => exact hroot
    | succ depth ih =>
      intro o
      cases o with
      | none => exact hroot
      | some name =>
        rw [levelWithin, levelWithin, find?, find?, hknown, hroot]
        simp only [ih]
  rw [effective, effective, hroot, hwithin]

theorem find?_of_known_eq {l m : Loggers} (hknown : l.known = m.known) (name : Text) :
    l.find? name = m.find? name := by
  rw [find?, find?, hknown]

theorem knows_of_known_eq {l m : Loggers} (hknown : l.known = m.known) (name : Text) :
    l.Knows name ↔ m.Knows name := by
  rw [Knows, Knows, find?_of_known_eq hknown]

theorem grown_of_known_eq {l m : Loggers} (hknown : l.known = m.known) (h : Grown l) : Grown m := by
  constructor
  · intro name g p hg
    rw [← find?_of_known_eq hknown] at hg
    exact h.above name g p hg
  · intro name g hg hbegins
    rw [← find?_of_known_eq hknown] at hg
    exact (h.nearest name g hg hbegins).congr fun k _ => knows_of_known_eq hknown k

theorem passes_eq {l m : Loggers} {name : Text} (hdisabled : l.disabled = m.disabled)
    (heffective : l.effective name = m.effective name) (level : Int) :
    l.passes name level = m.passes name level := by
  rw [passes, passes, hdisabled, heffective]

theorem isRoot_shownName : isRoot (shownName name) = isRoot name := by
  unfold shownName
  split
  · next h => exact h.symm
  · rfl

theorem passes_shownName (level : Int) : l.passes (shownName name) level = l.passes name level := by
  by_cases h : isRoot name = true
  · rw [passes, passes, effective_eq, effective_eq, isRoot_shownName, if_pos h, if_pos h]
  · rw [shownName, if_neg h]

end Parts

/-! ### Changes that keep loggers where they are -/

/-- What does not begin the name of the root stands apart from what does. -/
theorem find?_ensure_of_ne (l : Loggers) {name m : Text}
    (hapart : beginsRoot m ≠ beginsRoot name) : (l.ensure name).find? m = l.find? m := by
  by_cases hold : isRoot name = true ∨ l.Knows name
  · rw [ensure_of_knows hold]
  · obtain ⟨hnonroot, hnew⟩ := not_or.mp hold
    have hne : m ≠ name := fun heq => hapart (congrArg beginsRoot heq)
    rw [find?_ensure (Bool.eq_false_iff.mpr hnonroot) hnew, if_neg hne]
    cases hfind : l.find? m with
    | none => rfl
    | some g =>
      have habove : isAbove name g.name = false := by
        rw [Bool.eq_false_iff, name_of_find? hfind]
        exact fun habove => hapart (beginsRoot_of_isAbove habove).symm
      rw [Option.map_some, adopt, habove]
      rfl

section SetLevel

variable {l : Loggers} {name : Text} (hroot : isRoot name = false)
include hroot

theorem find?_setLevel (level : Int) (m : Text) : (l.setLevel name level).find? m =
    (l.find? m).map fun g => if g.name = name then { g with level := level } else g := by
  have hname : ∀ g : Logger,
      (if g.name = name then { g with level := level } else g).name = g.name := by
    intro g
    split <;> rfl
  rw [setLevel, if_neg (by rw [hroot]; exact Bool.false_ne_true), find?, find?]
  dsimp only
  rw [List.find?_map]
  simp only [Function.comp_def, hname]

theorem knows_setLevel (level : Int) (m : Text) :
    (l.setLevel name level).Knows m ↔ l.Knows m := by
  rw [Knows, Knows, find?_setLevel hroot, Option.isSome_map]

theorem levelOf_setLevel (hknown : l.Knows name) (level : Int) (m : Text) :
    (l.setLevel name level).levelOf m = if m = name then level else l.levelOf m := by
  rw [levelOf, find?_setLevel hroot]
  by_cases hm : m = name
  · obtain ⟨g, hg⟩ := Option.isSome_iff_exists.mp hknown
    rw [if_pos hm, hm, hg, Option.map_some, if_pos (name_of_find? hg)]
    rfl
  · rw [if_neg hm, levelOf]
    cases hfind : l.find? m with
    | none => rfl
    | some g =>
      have hne : g.name ≠ name := fun heq => hm ((name_of_find? hfind).symm.trans heq)
      rw [Option.map_some, if_neg hne]

theorem grown_setLevel (h : Grown l) (level : Int) : Grown (l.setLevel name level) := by
  have hparent : ∀ g : Logger,
      (if g.name = name then { g with level := level } else g).parent = g.parent := by
    intro g
    split <;> rfl
  constructor
  · intro m g p hg hp
    rw [find?_setLevel hroot] at hg
    obtain ⟨old, hold, rfl⟩ := Option.map_eq_some_iff.mp hg
    exact h.above m old p hold ((hparent old).symm.trans hp)
  · intro m g hg hbegins
    rw [find?_setLevel hroot] at hg
    obtain ⟨old, hold, rfl⟩ := Option.map_eq_some_iff.mp hg
    rw [hparent]
    exact (h.nearest m old hold hbegins).congr fun k _ => (knows_setLevel hroot level k).symm

end SetLevel

/-! ### Verdicts -/

section Judge

variable (l : Loggers) (name : Text) (level : Int)

theorem verdict_judge : (l.judge name level).2 =
    (l.verdicts.lookup (shownName name, level)).getD (l.passes name level) := by
  unfold judge
  dsimp only
  cases l.verdicts.lookup (shownName name, level) <;> rfl

theorem judge_keeps : (l.judge name level).1.root = l.root ∧
    (l.judge name level).1.known = l.known ∧ (l.judge name level).1.disabled = l.disabled := by
  unfold judge
  dsimp only
  cases l.verdicts.lookup (shownName name, level) <;> exact ⟨rfl, rfl, rfl⟩

theorem lookup_judge (key : Text × Int) : (l.judge name level).1.verdicts.lookup key =
    if key = (shownName name, level) then some (l.judge name level).2
    else l.verdicts.lookup key := by
  unfold judge
  dsimp only
  cases hlookup : l.verdicts.lookup (shownName name, level) with
  | some verdict =>
    by_cases hkey : key = (shownName name, level)
    · rw [if_pos hkey, hkey]
      exact hlookup
    · rw [if_neg hkey]
  | none =>
    dsimp only
    rw [List.lookup_cons]
    by_cases hkey : key = (shownName name, level)
    · rw [if_pos hkey, beq_iff_eq.mpr hkey]
    · rw [if_neg hkey, beq_eq_false_iff_ne.mpr hkey]

end Judge

/-- Every verdict on a steady name that is remembered would be found again now. -/
def Settled (l : Loggers) : Prop :=
  ∀ name level verdict, isSteady name = true → l.verdicts.lookup (name, level) = some verdict →
    (isRoot name = true ∨ l.Knows name) ∧ verdict = l.passes name level

theorem settled_of_forgotten {l : Loggers} (h : l.verdicts = []) : Settled l := by
  intro name level verdict _ hlookup
  rw [h] at hlookup
  cases hlookup

theorem extends_ensure (l : Loggers) (name : Text) : Extends (l.ensure name) l where
  root := root_ensure l name
  level := levelOf_ensure l name
  knows m hm := (knows_ensure l name m).mpr (.inl hm)

/-- No logger that comes in between changes the effective level of a steady name. -/
theorem effective_ensure {l : Loggers} (h : Grown l) (name : Text) {m : Text}
    (hm : isSteady m = true) (hknown : isRoot m = true ∨ l.Knows m) :
    (l.ensure name).effective m = l.effective m :=
  effective_of_extends (extends_ensure l name) (grown_ensure h name) h
    (fun _ _ hn habove => isSteady_of_isAbove habove hn) (fun _ hn => beginsRoot_of_isSteady hn)
    (fun _ _ hn habove _ _ => getLast?_of_isSteady (isSteady_of_isAbove habove hn)) hm hknown

theorem settled_ensure {l : Loggers} (hgrown : Grown l) (h : Settled l) (name : Text) :
    Settled (l.ensure name) := by
  intro m level verdict hm hlookup
  rw [verdicts_ensure] at hlookup
  obtain ⟨hknown, hverdict⟩ := h m level verdict hm hlookup
  refine ⟨hknown.imp_right ((extends_ensure l name).knows m), hverdict.trans ?_⟩
  exact (passes_eq (disabled_ensure l name) (effective_ensure hgrown name hm hknown) level).symm

/-- On a steady name the verdict is the one that is found now. -/
theorem Settled.verdict_judge {l : Loggers} (h : Settled l) {name : Text}
    (hname : isSteady (shownName name) = true) (level : Int) :
    (l.judge name level).2 = l.passes name level := by
  rw [Loggers.verdict_judge]
  cases hlookup : l.verdicts.lookup (shownName name, level) with
  | none => rfl
  | some verdict =>
    obtain ⟨-, hverdict⟩ := h _ level verdict hname hlookup
    rw [Option.getD_some, hverdict, passes_shownName]

theorem settled_judge {l : Loggers} (h : Settled l) {name : Text}
    (hknown : isRoot name = true ∨ l.Knows name) (level : Int) :
    Settled (l.judge name level).1 := by
  obtain ⟨hroot, hsame, hdisabled⟩ := judge_keeps l name level
  have hpasses : ∀ m lv, (l.judge name level).1.passes m lv = l.passes m lv := fun m lv =>
    passes_eq hdisabled (effective_of_known_eq hroot hsame m) lv
  intro m lv verdict hm hlookup
  rw [hpasses, knows_of_known_eq hsame]
  rw [lookup_judge] at hlookup
  by_cases hkey : (m, lv) = (shownName name, level)
  · rw [if_pos hkey] at hlookup
    obtain ⟨rfl, rfl⟩ := Prod.mk.inj hkey
    refine ⟨?_, ?_⟩
    · by_cases hname : isRoot name = true
      · exact .inl ((isRoot_shownName name).trans hname)
      · rw [shownName, if_neg hname]
        exact hknown
    · rw [← Option.some.inj hlookup, h.verdict_judge hm, passes_shownName]
  · rw [if_neg hkey] at hlookup
    exact h m lv verdict hm hlookup

/-! ### Hidden loggers -/

/-- One of two trees holds further loggers, all with steady names and without a level. Nothing else
tells the two apart but verdicts on steady names. -/
structure Hides (full rest : Loggers) : Prop extends Extends full rest where
  grown : Grown full
  grown_rest : Grown rest
  settled : Settled full
  settled_rest : Settled rest
  disabled : full.disabled = rest.disabled
  steady : ∀ name, full.Knows name → ¬rest.Knows name → isSteady name = true
  same : ∀ name, beginsRoot name = true → full.find? name = rest.find? name
  verdicts : ∀ name level, isSteady name = false →
    full.verdicts.lookup (name, level) = rest.verdicts.lookup (name, level)

theorem Hides.refl {l : Loggers} (hgrown : Grown l) (hsettled : Settled l) : Hides l l where
  root := rfl
  level _ := rfl
  knows _ h := h
  grown := hgrown
  grown_rest := hgrown
  settled := hsettled
  settled_rest := hsettled
  disabled := rfl
  steady _ hknown hnot := absurd hknown hnot
  same _ _ := rfl
  verdicts _ _ _ := rfl

theorem Hides.of_known_eq {full rest full' rest' : Loggers} (h : Hides full rest)
    (hfull : full.known = full'.known) (hrest : rest.known = rest'.known)
    (hroot : full'.root = rest'.root) (hdisabled : full'.disabled = rest'.disabled)
    (hsettled : Settled full') (hsettled_rest : Settled rest')
    (hverdicts : ∀ name level, isSteady name = false →
      full'.verdicts.lookup (name, level) = rest'.verdicts.lookup (name, level)) :
    Hides full' rest' where
  root := hroot
  level name := by
    have hlevel := h.level name
    rwa [levelOf, levelOf, find?_of_known_eq hfull, find?_of_known_eq hrest] at hlevel
  knows name hname :=
    (knows_of_known_eq hfull name).mp (h.knows name ((knows_of_known_eq hrest name).mpr hname))
  grown := grown_of_known_eq hfull h.grown
  grown_rest := grown_of_known_eq hrest h.grown_rest
  settled := hsettled
  settled_rest := hsettled_rest
  disabled := hdisabled
  steady name hname hnew := h.steady name ((knows_of_known_eq hfull name).mpr hname) fun hold =>
    hnew ((knows_of_known_eq hrest name).mp hold)
  same name hname := by
    rw [← find?_of_known_eq hfull, ← find?_of_known_eq hrest, h.same name hname]
  verdicts := hverdicts

namespace Hides

variable {full rest : Loggers} (h : Hides full rest) {name : Text}
include h

/-- Loggers that begin the name of the root are the same in both trees, all the way up. -/
theorem levelWithin_of_beginsRoot (depth : Nat) {o : Option Text}
    (ho : ∀ name ∈ o, beginsRoot name = true) :
    full.levelWithin depth o = rest.levelWithin depth o := by
  induction depth generalizing o with
  | zero =>
    cases o with
    | none => exact h.root
    | some name => exact h.root
  | succ depth ih =>
    cases o with
    | none => exact h.root
    | some name =>
      have hname := ho name rfl
      rw [levelWithin, levelWithin, h.same name hname, h.root]
      cases hfind : rest.find? name with
      | none => rfl
      | some g =>
        have hparent : ∀ p ∈ g.parent, beginsRoot p = true := fun p hp =>
          (beginsRoot_of_isAbove (h.grown_rest.above name g p hfind hp)).trans hname
        dsimp only
        rw [ih hparent]

theorem effective (hknown : isRoot name = true ∨ rest.Knows name) :
    full.effective name = rest.effective name := by
  by_cases hname : beginsRoot name = true
  · have hwithin : full.levelAt (some name) = rest.levelAt (some name) :=
      h.levelWithin_of_beginsRoot _ fun m hm => Option.some.inj hm ▸ hname
    rw [effective_eq, effective_eq, h.root, hwithin]
  · refine effective_of_extends h.toExtends h.grown h.grown_rest
      (fun n m hn habove => (beginsRoot_of_isAbove habove).trans hn) (fun _ hn => hn)
      (fun n m _ _ hm hnew => getLast?_of_isSteady (h.steady m hm hnew))
      (Bool.eq_false_iff.mpr hname) hknown

/-- The verdicts of the two trees are the same. -/
theorem verdict_judge (hknown : isRoot name = true ∨ rest.Knows name) (level : Int) :
    (full.judge name level).2 = (rest.judge name level).2 := by
  have hpasses := passes_eq h.disabled (h.effective hknown) level
  by_cases hsteady : isSteady (shownName name) = true
  · rw [h.settled.verdict_judge hsteady, h.settled_rest.verdict_judge hsteady, hpasses]
  · rw [Loggers.verdict_judge, Loggers.verdict_judge, hpasses,
      h.verdicts _ level (Bool.eq_false_iff.mpr hsteady)]

theorem judge (hknown : isRoot name = true ∨ rest.Knows name) (level : Int) :
    Hides (full.judge name level).1 (rest.judge name level).1 := by
  obtain ⟨hroot, hfull, hdisabled⟩ := judge_keeps full name level
  obtain ⟨hroot', hrest, hdisabled'⟩ := judge_keeps rest name level
  refine h.of_known_eq hfull.symm hrest.symm ?_ ?_ ?_ ?_ ?_
  · rw [hroot, hroot', h.root]
  · rw [hdisabled, hdisabled', h.disabled]
  · exact settled_judge h.settled (hknown.imp_right (h.knows name)) level
  · exact settled_judge h.settled_rest hknown level
  · intro m lv hm
    rw [lookup_judge, lookup_judge, h.verdict_judge hknown, h.verdicts m lv hm]

/-- A verdict on a steady name may be remembered in one tree alone. -/
theorem judge_left (hname : isSteady name = true) (hknown : isRoot name = true ∨ full.Knows name)
    (level : Int) : Hides (full.judge name level).1 rest := by
  obtain ⟨hroot, hfull, hdisabled⟩ := judge_keeps full name level
  refine h.of_known_eq hfull.symm rfl (hroot.trans h.root) (hdisabled.trans h.disabled)
    (settled_judge h.settled hknown level) h.settled_rest fun m lv hm => ?_
  have hkey : (m, lv) ≠ (shownName name, level) := by
    intro heq
    rw [(Prod.mk.inj heq).1, isSteady_shownName hname] at hm
    cases hm
  rw [lookup_judge, if_neg hkey, h.verdicts m lv hm]

theorem setRoot (level : Int) : Hides (full.setRoot level) (rest.setRoot level) :=
  h.of_known_eq rfl rfl rfl h.disabled (settled_of_forgotten rfl) (settled_of_forgotten rfl)
    fun _ _ _ => rfl

theorem disable (level : Int) : Hides (full.disable level) (rest.disable level) :=
  h.of_known_eq rfl rfl h.root rfl (settled_of_forgotten rfl) (settled_of_forgotten rfl)
    fun _ _ _ => rfl

theorem nearestAbove (hname : beginsRoot name = true) :
    full.nearestAbove name = rest.nearestAbove name := by
  refine (nearest_nearestAbove full name).unique (fun m habove => ?_) (nearest_nearestAbove rest name)
  rw [Knows, Knows, h.same m ((beginsRoot_of_isAbove habove).trans hname)]

theorem find?_ensure (name : Text) {m : Text} (hm : beginsRoot m = true) :
    (full.ensure name).find? m = (rest.ensure name).find? m := by
  by_cases hname : beginsRoot name = true
  · have hsame : full.Knows name ↔ rest.Knows name := by rw [Knows, Knows, h.same name hname]
    by_cases hold : isRoot name = true ∨ rest.Knows name
    · rw [ensure_of_knows hold, ensure_of_knows (hold.imp_right hsame.mpr), h.same m hm]
    · obtain ⟨hnonroot, hnew⟩ := not_or.mp hold
      have hroot := Bool.eq_false_iff.mpr hnonroot
      rw [Loggers.find?_ensure hroot hnew, Loggers.find?_ensure hroot fun hk => hnew (hsame.mp hk),
        h.nearestAbove hname, h.same m hm]
  · have hapart : beginsRoot m ≠ beginsRoot name := by
      rw [hm]
      exact fun heq => hname heq.symm
    rw [find?_ensure_of_ne full hapart, find?_ensure_of_ne rest hapart, h.same m hm]

theorem ensure (name : Text) : Hides (full.ensure name) (rest.ensure name) where
  root := by rw [root_ensure, root_ensure, h.root]
  level m := by rw [levelOf_ensure, levelOf_ensure, h.level]
  knows m hm := by
    rw [knows_ensure] at hm ⊢
    exact hm.imp_left (h.knows m)
  grown := grown_ensure h.grown name
  grown_rest := grown_ensure h.grown_rest name
  settled := settled_ensure h.grown h.settled name
  settled_rest := settled_ensure h.grown_rest h.settled_rest name
  disabled := by rw [disabled_ensure, disabled_ensure, h.disabled]
  steady m hm hnew := by
    rw [knows_ensure] at hm hnew
    obtain ⟨hold, hother⟩ := not_or.mp hnew
    exact h.steady m (hm.resolve_right hother) hold
  same _ := h.find?_ensure name
  verdicts m level hm := by rw [verdicts_ensure, verdicts_ensure, h.verdicts m level hm]

/-- A logger with a steady name may be asked for in one tree alone. -/
theorem ensure_left (hname : isSteady name = true) : Hides (full.ensure name) rest where
  root := by rw [root_ensure, h.root]
  level m := by rw [levelOf_ensure, h.level]
  knows m hm := (extends_ensure full name).knows m (h.knows m hm)
  grown := grown_ensure h.grown name
  grown_rest := h.grown_rest
  settled := settled_ensure h.grown h.settled name
  settled_rest := h.settled_rest
  disabled := by rw [disabled_ensure, h.disabled]
  steady m hm hnew := by
    rw [knows_ensure] at hm
    rcases hm with hm | ⟨rfl, -⟩
    · exact h.steady m hm hnew
    · exact hname
  same m hm := by
    have hapart : beginsRoot m ≠ beginsRoot name := by
      rw [hm, beginsRoot_of_isSteady hname]
      exact Bool.noConfusion
    rw [find?_ensure_of_ne full hapart, h.same m hm]
  verdicts m level hm := by rw [verdicts_ensure, h.verdicts m level hm]

theorem setLevel (hknown : isRoot name = true ∨ rest.Knows name) (level : Int) :
    Hides (full.setLevel name level) (rest.setLevel name level) := by
  by_cases hroot : isRoot name = true
  · rw [Loggers.setLevel, Loggers.setLevel, if_pos hroot, if_pos hroot]
    exact h.setRoot level
  have hnonroot := Bool.eq_false_iff.mpr hroot
  have hrest := hknown.resolve_left hroot
  have hsettled : ∀ l : Loggers, Settled (l.setLevel name level) := fun l => by
    refine settled_of_forgotten ?_
    rw [Loggers.setLevel, if_neg hroot]
    rfl
  exact {
    root := by
      rw [Loggers.setLevel, Loggers.setLevel, if_neg hroot, if_neg hroot]
      exact h.root
    level := fun m => by
      rw [levelOf_setLevel hnonroot (h.knows name hrest), levelOf_setLevel hnonroot hrest, h.level]
    knows := fun m hm => by
      rw [knows_setLevel hnonroot] at hm ⊢
      exact h.knows m hm
    grown := grown_setLevel hnonroot h.grown level
    grown_rest := grown_setLevel hnonroot h.grown_rest level
    settled := hsettled full
    settled_rest := hsettled rest
    disabled := by
      rw [Loggers.setLevel, Loggers.setLevel, if_neg hroot, if_neg hroot]
      exact h.disabled
    steady := fun m hm hnew => by
      rw [knows_setLevel hnonroot] at hm hnew
      exact h.steady m hm hnew
    same := fun m hm => by
      rw [find?_setLevel hnonroot, find?_setLevel hnonroot, h.same m hm]
    verdicts := fun m lv _ => by
      rw [Loggers.setLevel, Loggers.setLevel, if_neg hroot, if_neg hroot]
      rfl }

end Hides

end Caret.Loggers

import Caret.Log.Logger

/-!
# Trees of loggers

A logger stands below the nearest one above its name, with one exception: a logger whose first part
begins the name of the root does not take over what stands below the root. Dots in a row make another:
of two names above a third one, neither may be above the other. A name without them is steady. Main
statement: further loggers with steady names and without a level change no effective level.
-/

namespace Caret

theorem Text.after?_eq_some_iff {p t rest : Text} : after? p t = some rest ↔ t = p ++ rest := by
  induction p generalizing t with
  | nil => exact Option.some_inj
  | cons a p ih =>
    cases t with
    | nil => exact ⟨nofun, nofun⟩
    | cons b t =>
      unfold after?
      by_cases hab : a = b
      · rw [if_pos hab, ih, hab, List.cons_append, List.cons_inj_right]
      · rw [if_neg hab]
        refine ⟨nofun, fun h => absurd (List.cons.inj h).1.symm hab⟩

/-- The elements at the front end before the last one, where that is not one of them. -/
theorem takeWhile_append_of_last {α : Type} {p : α → Bool} {s : List α} (hne : s ≠ [])
    (hlast : ∀ a ∈ s.getLast?, p a = false) (more : List α) :
    (s ++ more).takeWhile p = s.takeWhile p := by
  induction s with
  | nil => exact absurd rfl hne
  | cons a s ih =>
    rw [List.cons_append, List.takeWhile_cons, List.takeWhile_cons]
    cases s with
    | nil =>
      rw [hlast a rfl]
      rfl
    | cons b s =>
      rw [List.getLast?_cons_cons] at hlast
      rw [ih (List.cons_ne_nil b s) hlast]

namespace Loggers

/-! ### Names above names -/

section Names

variable {name lower : Text}

theorem isAbove_iff : isAbove name lower = true ↔ name ≠ [] ∧
    ∃ rest, lower = name ++ dot :: rest ∧ (rest.takeWhile (· == dot)).length % 2 = 0 := by
  unfold isAbove
  rw [Bool.and_eq_true, Bool.not_eq_true', List.isEmpty_eq_false_iff]
  refine and_congr_right fun _ => ?_
  constructor
  · intro h
    split at h
    · next c rest hafter =>
      obtain ⟨hdot, heven⟩ := Bool.and_eq_true_iff.mp h
      rw [beq_iff_eq] at hdot heven
      exact ⟨rest, hdot ▸ Text.after?_eq_some_iff.mp hafter, heven⟩
    · cases h
  · rintro ⟨rest, hlower, heven⟩
    rw [Text.after?_eq_some_iff.mpr hlower]
    simp [heven]

theorem prefix_of_isAbove (h : isAbove name lower = true) : name <+: lower := by
  obtain ⟨-, rest, rfl, -⟩ := isAbove_iff.mp h
  exact List.prefix_append name _

theorem length_lt_of_isAbove (h : isAbove name lower = true) : name.length < lower.length := by
  obtain ⟨-, rest, rfl, -⟩ := isAbove_iff.mp h
  simp

/-- Names above one name are told apart by their lengths. -/
theorem eq_of_length_eq {other : Text} (h : isAbove name lower = true)
    (hother : isAbove other lower = true) (hlength : name.length = other.length) : name = other :=
  (List.prefix_of_prefix_length_le (prefix_of_isAbove h) (prefix_of_isAbove hother)
    (Nat.le_of_eq hlength)).eq_of_length hlength

/-- Where a name does not end in a dot, the shorter names above what it is above are above it. -/
theorem isAbove_iff_of_isAbove {mid : Text} (h : isAbove mid lower = true)
    (hlast : mid.getLast? ≠ some dot) :
    isAbove name mid = true ↔ isAbove name lower = true ∧ name.length < mid.length := by
  obtain ⟨-, below, rfl, -⟩ := isAbove_iff.mp h
  -- the dots behind the name end before the end of `mid`
  have hdots : ∀ rest, mid = name ++ dot :: rest →
      ((rest ++ dot :: below).takeWhile (· == dot)) = rest.takeWhile (· == dot) := by
    rintro rest rfl
    have hne : rest ≠ [] := by
      rintro rfl
      simp at hlast
    refine takeWhile_append_of_last hne (fun c hc => ?_) _
    rw [beq_eq_false_iff_ne]
    rintro rfl
    rw [Option.mem_def] at hc
    simp [List.getLast?_append, List.getLast?_cons, hc] at hlast
  constructor
  · intro hmid
    refine ⟨?_, length_lt_of_isAbove hmid⟩
    obtain ⟨hne, rest, hrest, heven⟩ := isAbove_iff.mp hmid
    refine isAbove_iff.mpr ⟨hne, rest ++ dot :: below, ?_, ?_⟩
    · rw [hrest, List.append_assoc, List.cons_append]
    · rw [hdots rest hrest]
      exact heven
  · rintro ⟨hlower, hshorter⟩
    obtain ⟨hne, more, hmore, heven⟩ := isAbove_iff.mp hlower
    obtain ⟨rest, hmid, hrest⟩ : ∃ rest, mid = name ++ dot :: rest ∧ more = rest ++ dot :: below := by
      rcases List.append_eq_append_iff.mp hmore with ⟨as, rfl, -⟩ | ⟨bs, rfl, hbs⟩
      · rw [List.length_append] at hshorter
        omega
      · cases bs with
        | nil => simp at hshorter
        | cons b bs =>
          obtain ⟨rfl, hrest⟩ := List.cons.inj hbs
          exact ⟨bs, rfl, hrest⟩
    refine isAbove_iff.mpr ⟨hne, rest, hmid, ?_⟩
    rw [← hdots rest hmid, ← hrest]
    exact heven

end Names

/-! ### Steady names -/

/-- The part of a name before its first dot. -/
def firstPart (name : Text) : Text := (name.pieces dot).headD []

/-- The name of the root begins with the first part of the name, and goes on. -/
def beginsRoot (name : Text) : Bool := [text "r", text "ro", text "roo"].contains (firstPart name)

/-- No part of the name after the first one is empty, and the name of the root does not begin with
the first one. -/
def isSteady (name : Text) : Bool :=
  !beginsRoot name && (name.pieces dot).tail.all fun part => !part.isEmpty

section Steady

variable {name lower : Text}

theorem firstPart_append (before after : Text) :
    firstPart (before ++ dot :: after) = firstPart before := by
  obtain ⟨p, ps, hp⟩ := List.exists_cons_of_ne_nil (Text.pieces_ne_nil dot before)
  rw [firstPart, firstPart, Text.pieces_append_cons, hp]
  rfl

theorem beginsRoot_of_isAbove (h : isAbove name lower = true) :
    beginsRoot name = beginsRoot lower := by
  obtain ⟨-, rest, rfl, -⟩ := isAbove_iff.mp h
  rw [beginsRoot, beginsRoot, firstPart_append]

theorem beginsRoot_of_isSteady (h : isSteady name = true) : beginsRoot name = false :=
  (Bool.not_eq_true' _).mp (Bool.and_eq_true_iff.mp h).1

theorem isSteady_append {before after : Text} (h : isSteady (before ++ dot :: after) = true) :
    isSteady before = true ∧ ∀ part ∈ after.pieces dot, part ≠ [] := by
  obtain ⟨p, ps, hp⟩ := List.exists_cons_of_ne_nil (Text.pieces_ne_nil dot before)
  obtain ⟨hfirst, hparts⟩ := Bool.and_eq_true_iff.mp h
  rw [Text.pieces_append_cons, hp, List.cons_append, List.tail_cons, List.all_append,
    Bool.and_eq_true] at hparts
  refine ⟨?_, fun part hpart => ?_⟩
  · rw [isSteady, hp, List.tail_cons, hparts.1, Bool.and_true]
    rwa [beginsRoot, firstPart_append] at hfirst
  · have hfull := List.all_eq_true.mp hparts.2 part hpart
    rwa [Bool.not_eq_true', List.isEmpty_eq_false_iff] at hfull

theorem isSteady_of_isAbove (h : isAbove name lower = true) (hlower : isSteady lower = true) :
    isSteady name = true := by
  obtain ⟨-, rest, rfl, -⟩ := isAbove_iff.mp h
  exact (isSteady_append hlower).1

theorem getLast?_of_isSteady (h : isSteady name = true) : name.getLast? ≠ some dot := by
  intro hlast
  obtain ⟨before, rfl⟩ := List.getLast?_eq_some_iff.mp hlast
  exact (isSteady_append h).2 [] List.mem_cons_self rfl

theorem isSteady_rootName : isSteady rootName = true := by decide

theorem isSteady_shownName (h : isSteady name = true) : isSteady (shownName name) = true := by
  unfold shownName
  split
  · exact isSteady_rootName
  · exact h

theorem after?_rootName (hroot : isRoot name = false) (hbegins : beginsRoot name = false) :
    Text.after? name rootName = none := by
  have hparts : ∀ k < 5, isRoot (rootName.take k) = true ∨ beginsRoot (rootName.take k) = true := by
    decide
  cases hafter : Text.after? name rootName with
  | none => rfl
  | some rest =>
    have hprefix : name <+: rootName := ⟨rest, (Text.after?_eq_some_iff.mp hafter).symm⟩
    have hpart := hparts name.length (Nat.lt_succ_of_le hprefix.length_le)
    rw [← List.prefix_iff_eq_take.mp hprefix, hroot, hbegins] at hpart
    cases hpart with
    | inl h => cases h
    | inr h => cases h

end Steady

/-! ### Known loggers -/

def Knows (l : Loggers) (name : Text) : Prop := (l.find? name).isSome = true

/-- The level of a name itself, which is unset where there is no logger. -/
def levelOf (l : Loggers) (name : Text) : Int := ((l.find? name).map Logger.level).getD Level.unset

theorem name_of_find? {l : Loggers} {name : Text} {g : Logger} (h : l.find? name = some g) :
    g.name = name := by
  have hname := List.find?_some h
  exact beq_iff_eq.mp hname

theorem not_knows_iff {l : Loggers} {name : Text} : ¬l.Knows name ↔ l.find? name = none := by
  rw [Knows, Bool.not_eq_true, Option.isSome_eq_false_iff, Option.isNone_iff_eq_none]

theorem levelOf_of_find? {l : Loggers} {name : Text} {g : Logger} (h : l.find? name = some g) :
    l.levelOf name = g.level := by
  rw [levelOf, h]
  rfl

theorem levelOf_of_not_knows {l : Loggers} {name : Text} (h : ¬l.Knows name) :
    l.levelOf name = Level.unset := by
  rw [levelOf, not_knows_iff.mp h]
  rfl

/-- The nearest one above a name among some names. -/
inductive Nearest (known : Text → Prop) (name : Text) : Option Text → Prop where
  | root (h : ∀ m, known m → isAbove m name = false) : Nearest known name none
  | below {m : Text} (hknown : known m) (habove : isAbove m name = true)
      (hlongest : ∀ k, known k → isAbove k name = true → k.length ≤ m.length) :
      Nearest known name (some m)

theorem Nearest.unique {known known' : Text → Prop} {name : Text} {o o' : Option Text}
    (hsame : ∀ m, isAbove m name = true → (known m ↔ known' m)) (h : Nearest known name o)
    (h' : Nearest known' name o') : o = o' := by
  cases h with
  | root hnone =>
    cases h' with
    | root => rfl
    | below hknown habove =>
      have hfalse := hnone _ ((hsame _ habove).mpr hknown)
      rw [habove] at hfalse
      cases hfalse
  | below hknown habove hlongest =>
    cases h' with
    | root hnone =>
      have hfalse := hnone _ ((hsame _ habove).mp hknown)
      rw [habove] at hfalse
      cases hfalse
    | below hknown' habove' hlongest' =>
      have hle := hlongest' _ ((hsame _ habove).mp hknown) habove
      have hge := hlongest _ ((hsame _ habove').mpr hknown') habove'
      rw [eq_of_length_eq habove habove' (Nat.le_antisymm hle hge)]

/-- Names that are not above make no difference. -/
theorem Nearest.congr {known known' : Text → Prop} {name : Text} {o : Option Text}
    (hsame : ∀ m, isAbove m name = true → (known m ↔ known' m)) (h : Nearest known name o) :
    Nearest known' name o := by
  cases h with
  | root hnone =>
    refine .root fun m hm => ?_
    rw [Bool.eq_false_iff]
    intro habove
    have hfalse := hnone m ((hsame m habove).mpr hm)
    rw [habove] at hfalse
    cases hfalse
  | below hknown habove hlongest =>
    exact .below ((hsame _ habove).mp hknown) habove
      fun k hk hkabove => hlongest k ((hsame k hkabove).mpr hk) hkabove

theorem foldr_longer (names : List Text) :
    names.foldr longer none = none ∧ names = [] ∨
      ∃ m ∈ names, names.foldr longer none = some m ∧ ∀ k ∈ names, k.length ≤ m.length := by
  induction names with
  | nil => exact .inl ⟨rfl, rfl⟩
  | cons name names ih =>
    refine .inr ?_
    rw [List.foldr_cons]
    rcases ih with ⟨hfold, rfl⟩ | ⟨m, hm, hfold, hlongest⟩
    · rw [hfold]
      exact ⟨name, List.mem_cons_self, rfl, by simp⟩
    · rw [hfold, longer]
      by_cases hlonger : name.length < m.length
      · rw [if_pos hlonger]
        exact ⟨m, List.mem_cons_of_mem _ hm, rfl,
          List.forall_mem_cons.mpr ⟨Nat.le_of_lt hlonger, hlongest⟩⟩
      · rw [if_neg hlonger]
        refine ⟨name, List.mem_cons_self, rfl, List.forall_mem_cons.mpr ⟨Nat.le_refl _, ?_⟩⟩
        exact fun k hk => Nat.le_trans (hlongest k hk) (Nat.le_of_not_lt hlonger)

theorem knows_iff_mem {l : Loggers} {name : Text} :
    l.Knows name ↔ name ∈ l.known.map Logger.name := by
  rw [Knows, find?, List.find?_isSome, List.mem_map]
  simp only [beq_iff_eq]

theorem nearest_nearestAbove (l : Loggers) (name : Text) :
    Nearest l.Knows name (l.nearestAbove name) := by
  have hmem : ∀ m, m ∈ (l.known.map Logger.name).filter (fun n => isAbove n name) ↔
      l.Knows m ∧ isAbove m name = true := by
    intro m
    rw [List.mem_filter, knows_iff_mem]
  unfold nearestAbove
  rcases foldr_longer ((l.known.map Logger.name).filter fun n => isAbove n name) with
    ⟨hfold, hnil⟩ | ⟨m, hm, hfold, hlongest⟩
  · rw [hfold]
    refine .root fun m hm => ?_
    rw [Bool.eq_false_iff]
    intro habove
    have hin := (hmem m).mpr ⟨hm, habove⟩
    rw [hnil] at hin
    cases hin
  · rw [hfold]
    obtain ⟨hknown, habove⟩ := (hmem m).mp hm
    exact .below hknown habove fun k hk hkabove => hlongest k ((hmem k).mpr ⟨hk, hkabove⟩)

/-! ### Asking for a logger -/

section Ensure

variable {l : Loggers} {name : Text}

theorem ensure_of_knows (h : isRoot name = true ∨ l.Knows name) : l.ensure name = l := by
  rw [ensure, if_pos]
  rcases h with h | h
  · rw [h, Bool.true_or]
  · rw [h, Bool.or_true]

theorem name_adopt (name : Text) (g : Logger) : (adopt name g).name = g.name := by
  unfold adopt
  split <;> rfl

theorem level_adopt (name : Text) (g : Logger) : (adopt name g).level = g.level := by
  unfold adopt
  split <;> rfl

theorem find?_ensure (hroot : isRoot name = false) (hnew : ¬l.Knows name) (m : Text) :
    (l.ensure name).find? m = if m = name then some ⟨name, l.nearestAbove name, Level.unset⟩
      else (l.find? m).map (adopt name) := by
  have hfresh : ((isRoot name || (l.find? name).isSome) : Bool) = false := by
    rw [hroot, not_knows_iff.mp hnew]
    rfl
  have hmap : (l.known.map (adopt name)).find? (·.name == m) = (l.find? m).map (adopt name) := by
    rw [List.find?_map, find?]
    simp only [Function.comp_def, name_adopt]
  rw [ensure, if_neg (by rw [hfresh]; exact Bool.false_ne_true), find?]
  by_cases hm : m = name
  · rw [if_pos hm, hm]
    exact List.find?_cons_of_pos (beq_self_eq_true name)
  · have hne : ¬(name == m) = true := by
      rw [beq_iff_eq]
      exact fun heq => hm heq.symm
    rw [if_neg hm, ← hmap]
    exact List.find?_cons_of_neg hne

theorem levelOf_ensure (l : Loggers) (name m : Text) : (l.ensure name).levelOf m = l.levelOf m := by
  by_cases hold : isRoot name = true ∨ l.Knows name
  · rw [ensure_of_knows hold]
  · obtain ⟨hroot, hnew⟩ := not_or.mp hold
    rw [levelOf, find?_ensure (Bool.eq_false_iff.mpr hroot) hnew]
    by_cases hm : m = name
    · rw [if_pos hm, hm, levelOf_of_not_knows hnew]
      rfl
    · rw [if_neg hm, Option.map_map, levelOf]
      simp only [Function.comp_def, level_adopt]

theorem knows_ensure (l : Loggers) (name m : Text) :
    (l.ensure name).Knows m ↔ l.Knows m ∨ m = name ∧ isRoot name = false := by
  by_cases hold : isRoot name = true ∨ l.Knows name
  · rw [ensure_of_knows hold]
    refine ⟨.inl, ?_⟩
    rintro (h | ⟨rfl, hroot⟩)
    · exact h
    · rcases hold with hroot' | hknown
      · rw [hroot] at hroot'
        cases hroot'
      · exact hknown
  · obtain ⟨hroot, hnew⟩ := not_or.mp hold
    rw [Knows, find?_ensure (Bool.eq_false_iff.mpr hroot) hnew]
    by_cases hm : m = name
    · rw [if_pos hm]
      exact ⟨fun _ => .inr ⟨hm, Bool.eq_false_iff.mpr hroot⟩, fun _ => rfl⟩
    · rw [if_neg hm, Option.isSome_map]
      refine ⟨.inl, ?_⟩
      rintro (h | ⟨rfl, -⟩)
      · exact h
      · exact absurd rfl hm

end Ensure

/-! ### Places in the tree -/

/-- Every logger stands below one that is above its name, and below the nearest such one unless it
begins the name of the root. -/
structure Grown (l : Loggers) : Prop where
  above : ∀ name g p, l.find? name = some g → g.parent = some p → isAbove p name = true
  nearest : ∀ name g, l.find? name = some g → beginsRoot name = false →
    Nearest l.Knows name g.parent

theorem grown_initial : Grown initial := ⟨nofun, nofun⟩

/-- What becomes of the place of a logger when a new one takes over what belongs below it. -/
theorem nearest_adopt {l : Loggers} {name : Text} {g : Logger} (hnew : ¬l.Knows name)
    (hroot : isRoot name = false) (hbegins : beginsRoot g.name = false)
    (h : Nearest l.Knows g.name g.parent) :
    Nearest (fun m => l.Knows m ∨ m = name) g.name (adopt name g).parent := by
  by_cases habove : isAbove name g.name = true
  · have hname : beginsRoot name = false := (beginsRoot_of_isAbove habove).trans hbegins
    -- the logger is taken over unless what it stands below is nearer than the new one
    unfold adopt
    rw [habove, Bool.true_and]
    cases hparent : g.parent with
    | none =>
      rw [hparent] at h
      have hfree : (Text.after? name (parentName g)).isNone = true := by
        rw [parentName, hparent, Option.getD_none, after?_rootName hroot hname]
        rfl
      rw [if_pos hfree]
      cases h with
      | root hnone =>
        refine .below (.inr rfl) habove fun k hk hkabove => ?_
        rcases hk with hk | rfl
        · rw [hnone k hk] at hkabove
          cases hkabove
        · exact Nat.le_refl _
    | some p =>
      rw [hparent] at h
      rw [parentName, hparent, Option.getD_some]
      cases h with
      | below hknown hpabove hlongest =>
        cases hafter : Text.after? name p with
        | none =>
          have hshort : p.length < name.length := by
            refine Nat.lt_of_not_le fun hle => ?_
            obtain ⟨rest, hrest⟩ := List.prefix_of_prefix_length_le (prefix_of_isAbove habove)
              (prefix_of_isAbove hpabove) hle
            rw [Text.after?_eq_some_iff.mpr hrest.symm] at hafter
            cases hafter
          refine .below (.inr rfl) habove fun k hk hkabove => ?_
          rcases hk with hk | rfl
          · exact Nat.le_trans (hlongest k hk hkabove) (Nat.le_of_lt hshort)
          · exact Nat.le_refl _
        | some rest =>
          have hlong : name.length ≤ p.length := by
            rw [Text.after?_eq_some_iff.mp hafter, List.length_append]
            exact Nat.le_add_right ..
          rw [Option.isNone_some, if_neg Bool.false_ne_true, hparent]
          refine .below (.inl hknown) hpabove fun k hk hkabove => ?_
          rcases hk with hk | rfl
          · exact hlongest k hk hkabove
          · exact hlong
  · have hkept : adopt name g = g := by
      rw [adopt, Bool.eq_false_iff.mpr habove]
      rfl
    rw [hkept]
    refine h.congr fun m hm => ⟨.inl, ?_⟩
    rintro (hknown | rfl)
    · exact hknown
    · exact absurd hm habove

theorem grown_ensure {l : Loggers} (h : Grown l) (name : Text) : Grown (l.ensure name) := by
  by_cases hold : isRoot name = true ∨ l.Knows name
  · rw [ensure_of_knows hold]
    exact h
  obtain ⟨hnonroot, hnew⟩ := not_or.mp hold
  have hroot := Bool.eq_false_iff.mpr hnonroot
  have hknows : ∀ m, (l.ensure name).Knows m ↔ l.Knows m ∨ m = name := fun m =>
    (knows_ensure l name m).trans (or_congr_right ⟨And.left, fun hm => ⟨hm, hroot⟩⟩)
  constructor
  · intro m g p hg hp
    rw [find?_ensure hroot hnew] at hg
    by_cases hm : m = name
    · rw [if_pos hm] at hg
      obtain rfl := Option.some.inj hg
      have hnearest := nearest_nearestAbove l name
      rw [show l.nearestAbove name = some p from hp] at hnearest
      cases hnearest with
      | below hknown habove => exact hm ▸ habove
    · rw [if_neg hm] at hg
      obtain ⟨old, hold, rfl⟩ := Option.map_eq_some_iff.mp hg
      unfold adopt at hp
      split at hp
      · next hcond =>
        obtain rfl := Option.some.inj hp
        exact name_of_find? hold ▸ (Bool.and_eq_true_iff.mp hcond).1
      · exact h.above m old p hold hp
  · intro m g hg hbegins
    rw [find?_ensure hroot hnew] at hg
    by_cases hm : m = name
    · rw [if_pos hm] at hg
      obtain rfl := Option.some.inj hg
      rw [hm]
      refine (nearest_nearestAbove l name).congr fun k hk => ?_
      rw [hknows]
      refine ⟨.inl, ?_⟩
      rintro (hknown | rfl)
      · exact hknown
      · exact absurd (length_lt_of_isAbove hk) (Nat.lt_irrefl _)
    · rw [if_neg hm] at hg
      obtain ⟨old, hold, rfl⟩ := Option.map_eq_some_iff.mp hg
      have hname := name_of_find? hold
      have hnearest := h.nearest m old hold hbegins
      rw [← hname] at hbegins hnearest ⊢
      exact (nearest_adopt hnew hroot hbegins hnearest).congr fun k _ => (hknows k).symm

/-! ### Effective levels -/

/-- The level that counts below a logger, or below the root. -/
def levelAt (l : Loggers) : Option Text → Int
  | none => l.root
  | some name => l.levelWithin (name.length + 1) (some name)

section Levels

variable {l : Loggers} (h : Grown l)
include h

theorem levelWithin_eq {depth depth' : Nat} {name : Text} (hdepth : name.length < depth)
    (hdepth' : name.length < depth') :
    l.levelWithin depth (some name) = l.levelWithin depth' (some name) := by
  induction depth generalizing depth' name with
  | zero => exact absurd hdepth (Nat.not_lt_zero _)
  | succ depth ih =>
    cases depth' with
    | zero => exact absurd hdepth' (Nat.not_lt_zero _)
    | succ depth' =>
      rw [levelWithin, levelWithin]
      cases hfind : l.find? name with
      | none => rfl
      | some g =>
        dsimp only
        cases hparent : g.parent with
        | none =>
          cases depth <;> cases depth' <;> rfl
        | some p =>
          have hshorter := length_lt_of_isAbove (h.above name g p hfind hparent)
          have hp : l.levelWithin depth (some p) = l.levelWithin depth' (some p) :=
            ih (by omega) (by omega)
          rw [hp]

/-- The level of a logger counts if it is set, and else that of what it stands below. -/
theorem levelAt_of_find? {name : Text} {g : Logger} (hfind : l.find? name = some g) :
    l.levelAt (some name) = if g.level = Level.unset then l.levelAt g.parent else g.level := by
  rw [levelAt, levelWithin, hfind]
  dsimp only
  cases hparent : g.parent with
  | none => cases name.length <;> rfl
  | some p =>
    have hshorter := length_lt_of_isAbove (h.above name g p hfind hparent)
    rw [levelAt, levelWithin_eq h hshorter (Nat.lt_succ_self _)]

end Levels

theorem effective_eq (l : Loggers) (name : Text) :
    l.effective name = if isRoot name then l.root else l.levelAt (some name) := rfl

/-! ### Further loggers -/

/-- Further loggers, all without a level. -/
structure Extends (full rest : Loggers) : Prop where
  root : full.root = rest.root
  level : ∀ name, full.levelOf name = rest.levelOf name
  knows : ∀ name, rest.Knows name → full.Knows name

section Extends

variable {full rest : Loggers} (h : Extends full rest) (hfull : Grown full) (hrest : Grown rest)
  {Q : Text → Prop} (hclosed : ∀ n m, Q n → isAbove m n = true → Q m)
  (hbegins : ∀ n, Q n → beginsRoot n = false)
  (hlast : ∀ n m, Q n → isAbove m n = true → full.Knows m → ¬rest.Knows m → m.getLast? ≠ some dot)
include h hfull hrest hclosed hbegins hlast

/-- Among names that do not begin the name of the root, further loggers whose names do not end in a
dot make no difference. -/
theorem levelAt_nearest {name : Text} {o o' : Option Text} (hname : Q name)
    (ho : Nearest full.Knows name o) (ho' : Nearest rest.Knows name o') :
    full.levelAt o = rest.levelAt o' := by
  induction hlength : name.length using Nat.strongRecOn generalizing name o o' with
  | ind n ih =>
  subst hlength
  cases ho with
  | root hnone =>
    cases ho' with
    | root => exact h.root
    | below hknown habove =>
      rw [hnone _ (h.knows _ hknown)] at habove
      cases habove
  | @below m hknown habove hlongest =>
    have hm := hclosed name m hname habove
    have hshorter := length_lt_of_isAbove habove
    obtain ⟨g, hg⟩ := Option.isSome_iff_exists.mp hknown
    have hgnearest := hfull.nearest m g hg (hbegins m hm)
    have hlevel := (levelOf_of_find? hg).symm.trans (h.level m)
    rw [levelAt_of_find? hfull hg]
    by_cases hold : rest.Knows m
    · -- the nearest one is known to both
      have ho'm : o' = some m := by
        refine ho'.unique (fun _ _ => Iff.rfl) (.below hold habove fun k hk hkabove => ?_)
        exact hlongest k (h.knows k hk) hkabove
      obtain ⟨g', hg'⟩ := Option.isSome_iff_exists.mp hold
      rw [ho'm, levelAt_of_find? hrest hg', hlevel, levelOf_of_find? hg',
        ih m.length hshorter hm hgnearest (hrest.nearest m g' hg' (hbegins m hm)) rfl]
    · -- the nearest one is a further one, and what is above it is what is above the name
      have hunset : g.level = Level.unset := hlevel.trans (levelOf_of_not_knows hold)
      rw [if_pos hunset]
      refine ih m.length hshorter hm hgnearest ?_ rfl
      have hbelow := hlast name m hname habove hknown hold
      cases ho' with
      | root hnone =>
        refine .root fun k hk => ?_
        rw [Bool.eq_false_iff]
        intro hkm
        have hkabove := ((isAbove_iff_of_isAbove habove hbelow).mp hkm).1
        rw [hnone k hk] at hkabove
        cases hkabove
      | @below m' hknown' habove' hlongest' =>
        have hle := hlongest m' (h.knows m' hknown') habove'
        have hne : m'.length ≠ m.length := by
          intro heq
          exact hold (eq_of_length_eq habove' habove heq ▸ hknown')
        refine .below hknown' ((isAbove_iff_of_isAbove habove hbelow).mpr
          ⟨habove', Nat.lt_of_le_of_ne hle hne⟩) fun k hk hkm => ?_
        exact hlongest' k hk ((isAbove_iff_of_isAbove habove hbelow).mp hkm).1

theorem effective_of_extends {name : Text} (hname : Q name)
    (hknown : isRoot name = true ∨ rest.Knows name) :
    full.effective name = rest.effective name := by
  rw [effective_eq, effective_eq, h.root]
  rcases hknown with hroot | hknown
  · rw [if_pos hroot, if_pos hroot]
  · obtain ⟨g, hg⟩ := Option.isSome_iff_exists.mp (h.knows name hknown)
    obtain ⟨g', hg'⟩ := Option.isSome_iff_exists.mp hknown
    have hlevel : g.level = g'.level := by
      rw [← levelOf_of_find? hg, h.level, levelOf_of_find? hg']
    have hparent := levelAt_nearest h hfull hrest hclosed hbegins hlast hname
      (hfull.nearest name g hg (hbegins name hname)) (hrest.nearest name g' hg' (hbegins name hname))
    rw [levelAt_of_find? hfull hg, levelAt_of_find? hrest hg', hlevel, hparent]

end Extends

end Loggers

end Caret

import Caret.EnvFile.Load

/-!
# Bindings of an environment file

The keys that an environment file binds. Each has one value, the last that the file gives it, and
which keys there are is a matter of the file alone: references change values only. Main statement:
the loader of environment files sets just the keys that the environment does not have.
-/

namespace Caret.EnvFile

theorem names_replace (key : Text) (value : Option Text) (bs : Bound) :
    (replace key value bs).map Prod.fst =
      if key ∈ bs.map Prod.fst then bs.map Prod.fst else bs.map Prod.fst ++ [key] := by
  induction bs with
  | nil => rfl
  | cons e bs ih =>
    unfold replace
    by_cases he : e.1 = key
    · simp [he]
    · have hne : key ≠ e.1 := fun h => he h.symm
      rw [if_neg he, List.map_cons, ih]
      by_cases hmem : key ∈ bs.map Prod.fst
      · rw [if_pos hmem, if_pos (by rw [List.map_cons]; exact List.mem_cons_of_mem _ hmem)]
        rfl
      · have hnot : key ∉ (e :: bs).map Prod.fst := by
          rw [List.map_cons, List.mem_cons]
          rintro (h | h)
          · exact hne h
          · exact hmem h
        rw [if_neg hmem, if_neg hnot]
        rfl

theorem nodup_replace {key : Text} {value : Option Text} {bs : Bound}
    (h : (bs.map Prod.fst).Nodup) : ((replace key value bs).map Prod.fst).Nodup := by
  rw [names_replace]
  split
  · exact h
  · next hnew =>
    refine List.nodup_append.mpr ⟨h, by simp, ?_⟩
    rintro name hname _ hkey rfl
    exact hnew (List.mem_singleton.mp hkey ▸ hname)

theorem nodup_bound (env : Environment) (file : Text) : ((bound env file).map Prod.fst).Nodup := by
  have hfold : ∀ (bs : List Binding) (start : Bound), (start.map Prod.fst).Nodup →
      ((bs.foldl (bind env) start).map Prod.fst).Nodup := by
    intro bs
    induction bs with
    | nil => exact fun start h => h
    | cons b bs ih =>
      intro start h
      refine ih _ ?_
      unfold bind
      split
      · exact h
      · exact nodup_replace h
  exact hfold (parse file) [] List.nodup_nil

/-- The keys of a file, and whether each has a value. -/
def outline (bs : Bound) : List (Text × Bool) := bs.map fun e => (e.1, e.2.isSome)

theorem outline_replace {bs cs : Bound} (h : outline bs = outline cs) (key : Text)
    {v w : Option Text} (hvalue : v.isSome = w.isSome) :
    outline (replace key v bs) = outline (replace key w cs) := by
  induction bs generalizing cs with
  | nil =>
    cases cs with
    | nil => simp [outline, replace, hvalue]
    | cons => cases h
  | cons b bs ih =>
    cases cs with
    | nil => cases h
    | cons c cs =>
      obtain ⟨hhead, htail⟩ := List.cons.inj h
      have hname : b.1 = c.1 := (Prod.mk.inj hhead).1
      unfold replace
      rw [hname]
      by_cases hkey : c.1 = key
      · rw [if_pos hkey, if_pos hkey]
        exact List.cons_eq_cons.mpr ⟨congrArg (Prod.mk key) hvalue, htail⟩
      · rw [if_neg hkey, if_neg hkey]
        exact List.cons_eq_cons.mpr ⟨hhead, ih htail⟩

/-- References change values only. -/
theorem outline_bound (env other : Environment) (file : Text) :
    outline (bound env file) = outline (bound other file) := by
  have hfold : ∀ (bs : List Binding) (start start' : Bound), outline start = outline start' →
      outline (bs.foldl (bind env) start) = outline (bs.foldl (bind other) start') := by
    intro bs
    induction bs with
    | nil => exact fun _ _ h => h
    | cons b bs ih =>
      intro start start' h
      refine ih _ _ ?_
      unfold bind
      cases b.key with
      | none => exact h
      | some key => exact outline_replace h key (by rw [Option.isSome_map, Option.isSome_map])
  exact hfold (parse file) [] [] rfl

/-! ### Keys that have a value -/

theorem keys_valued (bs : Bound) :
    (valued bs).map Prod.fst = ((outline bs).filter Prod.snd).map Prod.fst := by
  induction bs with
  | nil => rfl
  | cons e bs ih =>
    obtain ⟨key, value⟩ := e
    cases value with
    | none => exact ih
    | some value => exact congrArg (List.cons key) ih

theorem nodup_keys_valued {bs : Bound} (h : (bs.map Prod.fst).Nodup) :
    ((valued bs).map Prod.fst).Nodup := by
  have hkeys : bs.map Prod.fst = (outline bs).map Prod.fst := by simp [outline]
  rw [keys_valued]
  rw [hkeys] at h
  exact h.sublist (List.filter_sublist.map Prod.fst)

/-- **The loader of environment files sets what is missing.** -/
theorem setsMissing_loader : loader.SetsMissing reading where
  nodup_keys env content := nodup_keys_valued (nodup_bound env content)
  keys_eq env other content := by
    show (valued _).map _ = (valued _).map _
    rw [keys_valued, keys_valued, outline_bound env other]
  disabled env file h := by
    unfold loader
    rw [if_pos h]
    exact ⟨rfl, rfl⟩
  unreadable env f h := by
    unfold loader
    rw [if_neg (Bool.eq_false_iff.mp h)]
    exact ⟨rfl, rfl⟩
  sets env content h := by
    unfold loader
    rw [if_neg (Bool.eq_false_iff.mp h)]
    exact ⟨rfl, rfl⟩

end Caret.EnvFile

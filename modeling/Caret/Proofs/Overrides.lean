import Caret.Value.Hash

/-!
# Entries that override others

Named entries, some of which take the places of others of the same name and follow them otherwise.
Main statement: the fold that inserts the new ones into a dictionary one after the other is this
override, if no name stands twice.
-/

namespace Caret

section Overriding

variable {α : Type}

theorem lookup_of_mem {es : List (Text × α)} (hkeys : (es.map Prod.fst).Nodup) {name : Text} {a : α}
    (h : (name, a) ∈ es) : es.lookup name = some a := by
  induction es with
  | nil => cases h
  | cons e es ih =>
    obtain ⟨hnew, hkeys⟩ := List.nodup_cons.mp hkeys
    rcases List.mem_cons.mp h with rfl | h
    · exact List.lookup_cons_self
    · have hne : (name == e.1) = false := by
        rw [beq_eq_false_iff_ne]
        rintro rfl
        exact hnew (List.mem_map.mpr ⟨_, h, rfl⟩)
      rw [List.lookup_cons, hne]
      exact ih hkeys h

theorem lookup_of_not_mem {es : List (Text × α)} {name : Text} (h : name ∉ es.map Prod.fst) :
    es.lookup name = none := by
  rw [List.lookup_eq_none_iff]
  intro e he
  rw [bne_iff_ne]
  rintro rfl
  exact h (List.mem_map_of_mem he)

/-- Entries that take the places of others of the same name and follow them otherwise. -/
def overridden (own extra : List (Text × α)) : List (Text × α) :=
  own.map (fun e => (e.1, (extra.lookup e.1).getD e.2)) ++
    extra.filter fun e => !(own.map Prod.fst).contains e.1

theorem overridden_nil (own : List (Text × α)) : overridden own [] = own := by
  simp [overridden]

theorem overridden_of_new {own extra : List (Text × α)}
    (hnew : ∀ e ∈ extra, e.1 ∉ own.map Prod.fst) : overridden own extra = own ++ extra := by
  have hown : own.map (fun o => (o.1, (extra.lookup o.1).getD o.2)) = own.map id := by
    refine List.map_congr_left fun o ho => ?_
    have hother : o.1 ∉ extra.map Prod.fst := by
      intro hmem
      obtain ⟨e, he, heq⟩ := List.mem_map.mp hmem
      exact hnew e he (heq ▸ List.mem_map_of_mem ho)
    rw [lookup_of_not_mem hother]
    rfl
  have hextra : extra.filter (fun e => !(own.map Prod.fst).contains e.1) = extra := by
    rw [List.filter_eq_self]
    intro e he
    rw [Bool.not_eq_true', Bool.eq_false_iff, ne_eq, List.contains_iff_mem]
    exact hnew e he
  rw [overridden, hown, hextra, List.map_id]

theorem names_overridden (own extra : List (Text × α)) :
    (overridden own extra).map Prod.fst =
      own.map Prod.fst ++
        (extra.map Prod.fst).filter fun name => !(own.map Prod.fst).contains name := by
  simp [overridden, List.filter_map, Function.comp_def]

theorem nodup_names_overridden {own extra : List (Text × α)} (hown : (own.map Prod.fst).Nodup)
    (hextra : (extra.map Prod.fst).Nodup) : ((overridden own extra).map Prod.fst).Nodup := by
  rw [names_overridden, List.nodup_append]
  refine ⟨hown, hextra.filter _, ?_⟩
  rintro name hname _ hother rfl
  have hnew := (List.mem_filter.mp hother).2
  rw [List.contains_iff_mem.mpr hname] at hnew
  cases hnew

theorem mem_overridden_own {own extra : List (Text × α)} {e : Text × α} (h : e ∈ own)
    (hnew : e.1 ∉ extra.map Prod.fst) : e ∈ overridden own extra := by
  have hlookup := lookup_of_not_mem hnew
  refine List.mem_append_left _ (List.mem_map.mpr ⟨e, h, ?_⟩)
  rw [hlookup]
  rfl

theorem mem_overridden_extra {own extra : List (Text × α)} (hextra : (extra.map Prod.fst).Nodup)
    {e : Text × α} (h : e ∈ extra) : e ∈ overridden own extra := by
  by_cases hown : e.1 ∈ own.map Prod.fst
  · obtain ⟨o, ho, hname⟩ := List.mem_map.mp hown
    have hlookup : extra.lookup o.1 = some e.2 := by
      rw [hname]
      exact lookup_of_mem hextra h
    refine List.mem_append_left _ (List.mem_map.mpr ⟨o, ho, ?_⟩)
    rw [hlookup, hname]
    rfl
  · refine List.mem_append_right _ (List.mem_filter.mpr ⟨h, ?_⟩)
    rw [Bool.not_eq_true', Bool.eq_false_iff, ne_eq, List.contains_iff_mem]
    exact hown

theorem mem_or_mem_of_mem_overridden {own extra : List (Text × α)} {e : Text × α}
    (h : e ∈ overridden own extra) : e ∈ own ∨ e ∈ extra := by
  rcases List.mem_append.mp h with h | h
  · obtain ⟨o, ho, rfl⟩ := List.mem_map.mp h
    cases hlookup : extra.lookup o.1 with
    | none => exact .inl ho
    | some a =>
      obtain ⟨before, after, rfl, -⟩ := List.lookup_eq_some_iff.mp hlookup
      exact .inr (List.mem_append_right before List.mem_cons_self)
  · exact .inr (List.mem_filter.mp h).1

/-- Entries may be overridden one after the other. -/
theorem overridden_cons {own extra : List (Text × α)} {e : Text × α}
    (hnew : e.1 ∉ extra.map Prod.fst) :
    overridden own (e :: extra) = overridden (overridden own [e]) extra := by
  have hlookup : ∀ o : Text × α, ((e :: extra).lookup o.1).getD o.2 =
      (extra.lookup o.1).getD (([e].lookup o.1).getD o.2) := by
    intro o
    by_cases ho : o.1 = e.1
    · rw [ho, lookup_of_not_mem hnew, List.lookup_cons_self, List.lookup_cons_self]
      rfl
    · have hne : (o.1 == e.1) = false := beq_eq_false_iff_ne.mpr ho
      rw [List.lookup_cons, List.lookup_cons, hne]
      rfl
  by_cases hown : (own.map Prod.fst).contains e.1 = true
  · have hone : overridden own [e] = own.map fun o => (o.1, ([e].lookup o.1).getD o.2) := by
      simp only [overridden, List.filter_cons, hown, Bool.not_true, Bool.false_eq_true, if_false,
        List.filter_nil, List.append_nil]
    rw [hone]
    simp only [overridden, List.filter_cons, hown, hlookup, List.map_map, Function.comp_def,
      Bool.not_true, Bool.false_eq_true, if_false]
  · have hold : (own.map Prod.fst).contains e.1 = false := Bool.eq_false_iff.mpr hown
    have hone : overridden own [e] =
        (own.map fun o => (o.1, ([e].lookup o.1).getD o.2)) ++ [e] := by
      simp only [overridden, List.filter_cons, hold, Bool.not_false, if_true, List.filter_nil]
    have hlast : (e.1, (extra.lookup e.1).getD e.2) = e := by
      rw [lookup_of_not_mem hnew]
      rfl
    have hfilter : extra.filter (fun x => !(own.map Prod.fst ++ [e.1]).contains x.1) =
        extra.filter fun x => !(own.map Prod.fst).contains x.1 := by
      refine List.filter_congr fun x hx => ?_
      have hne : x.1 ≠ e.1 := fun heq => hnew (heq ▸ List.mem_map_of_mem hx)
      simp [hne]
    rw [hone]
    simp only [overridden, List.filter_cons, hold, hlookup, List.map_append, List.map_map,
      Function.comp_def, List.map_cons, List.map_nil, Bool.not_false, if_true, hlast,
      List.append_assoc, List.singleton_append]
    rw [hfilter]

/-- The entries of a dictionary as values. -/
def entries (f : α → Value) (es : List (Text × α)) : List (Value × Value) :=
  es.map fun e => (.text e.1, f e.2)

theorem insertEntry_entries (f : α → Value) {own : List (Text × α)}
    (hown : (own.map Prod.fst).Nodup) (e : Text × α) :
    Value.insertEntry (.text e.1) (f e.2) (entries f own) = entries f (overridden own [e]) := by
  induction own with
  | nil => rfl
  | cons o own ih =>
    obtain ⟨hnew, hown⟩ := List.nodup_cons.mp hown
    by_cases ho : o.1 = e.1
    · have hrest : own.map (fun p => (p.1, ([e].lookup p.1).getD p.2)) = own.map id := by
        refine List.map_congr_left fun p hp => ?_
        have hne : p.1 ≠ e.1 := fun heq => hnew (ho ▸ heq ▸ List.mem_map_of_mem hp)
        have hlookup : [e].lookup p.1 = none := lookup_of_not_mem (by simpa using hne)
        rw [hlookup]
        rfl
      have hover : overridden (o :: own) [e] = (o.1, e.2) :: own := by
        have hlookup : [e].lookup e.1 = some e.2 := List.lookup_cons_self
        simp [overridden, hrest, ho, hlookup]
      rw [hover]
      simp [entries, Value.insertEntry, Value.same_text, ho]
    · have hne : (o.1 == e.1) = false := beq_eq_false_iff_ne.mpr ho
      have hback : (e.1 == o.1) = false := beq_eq_false_iff_ne.mpr fun heq => ho heq.symm
      have hover : overridden (o :: own) [e] = o :: overridden own [e] := by
        have hlookup : [e].lookup o.1 = none := lookup_of_not_mem (by simpa using ho)
        have hcontains : ((o :: own).map Prod.fst).contains e.1 =
            (own.map Prod.fst).contains e.1 := by
          rw [List.map_cons, List.contains_cons, hback, Bool.false_or]
        rw [overridden, overridden, List.filter_cons, List.filter_cons, hcontains, List.map_cons,
          hlookup]
        rfl
      rw [hover]
      simp only [entries] at ih
      simp [entries, Value.insertEntry, Value.same_text, hne, ih hown]

theorem foldl_insertEntry (f : α → Value) {own extra : List (Text × α)}
    (hown : (own.map Prod.fst).Nodup) (hextra : (extra.map Prod.fst).Nodup) :
    (entries f extra).foldl (fun acc e => Value.insertEntry e.1 e.2 acc) (entries f own) =
      entries f (overridden own extra) := by
  induction extra generalizing own with
  | nil =>
    rw [overridden_nil]
    rfl
  | cons e extra ih =>
    obtain ⟨hnew, hextra⟩ := List.nodup_cons.mp hextra
    have hone : ((overridden own [e]).map Prod.fst).Nodup :=
      nodup_names_overridden hown (by simp)
    rw [overridden_cons hnew, ← ih hone hextra, ← insertEntry_entries f hown e]
    rfl

end Overriding

end Caret

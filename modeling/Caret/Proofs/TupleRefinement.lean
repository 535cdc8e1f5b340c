import Caret.Program.Step

/-!
# Sources and windows as tuples

A source and a window answer as the tuple of their elements does. Slicing keeps the items and moves
two offsets, and cutting the items at the moved offsets gives what slicing the tuple gives, whatever
the bounds. Main statement: whatever comes from a list of items by a constructor and slices refines
the tuple of its elements, and no slice is refused but for its step.
-/

namespace Caret

/-! ### Slices -/

namespace Slice

/-- The slice takes every element between its bounds. -/
def Consecutive (s : Slice) : Prop := s.step.getD 1 = 1

theorem checkStep_of_consecutive {s : Slice} (h : s.Consecutive) (stepped : Fault) :
    s.checkStep stepped = .ok () := by
  obtain ⟨start, stop, step⟩ := s
  cases step with
  | none => rfl
  | some n =>
    obtain rfl : n = 1 := h
    rfl

/-- Any other step is refused. -/
theorem checkStep_of_not_consecutive {s : Slice} (h : ¬ s.Consecutive) (stepped : Fault)
    (hstepped : stepped.kind = .value) : ∃ f, s.checkStep stepped = .error f ∧ f.kind = .value := by
  unfold Consecutive at h
  unfold checkStep
  split
  · next hstep => exact absurd (by rw [hstep]; rfl) h
  · exact ⟨_, rfl, rfl⟩
  · next hstep => exact absurd (by rw [hstep]; rfl) h
  · exact ⟨_, rfl, hstepped⟩

theorem select_of_consecutive {α : Type} {s : Slice} (h : s.Consecutive) (xs : List α) :
    s.select xs = .ok (s.part xs) := by
  unfold select
  rw [show s.step.getD 1 = .ofNat (0 + 1) from h]
  exact congrArg Except.ok (takeEvery_zero _)

end Slice

/-- The bounds of a slice, moved by the start of a window, are bounds of a window on the same items.
It shows what the slice takes from the elements in sight. -/
theorem Window.exists_ofBounds_add {items : List Value} {start stop : Nat} (s : Slice)
    (hle : start ≤ stop) (hlen : stop ≤ items.length) :
    ∃ w, ofBounds items (start + s.lower (stop - start) : Nat)
        (start + s.upper (stop - start) : Nat) = .ok w ∧ w.items = items ∧
      w.toList = s.part ((items.take stop).drop start) := by
  have horder := s.lower_le_upper (stop - start)
  have hupper := s.upper_le (stop - start)
  have hlength : ((items.take stop).drop start).length = stop - start := by
    rw [List.length_drop, List.length_take_of_le hlen]
  refine ⟨_, ofBounds_natCast (by omega) (by omega), rfl, ?_⟩
  rw [Slice.part, hlength]
  show (items.take (start + s.upper (stop - start))).drop (start + s.lower (stop - start)) = _
  rw [List.take_drop, List.take_take, List.drop_drop, Nat.min_eq_left (by omega)]

theorem Window.slice_of_consecutive (w : Window) {s : Slice} (h : s.Consecutive) :
    ∃ v, w.slice s = .ok v ∧ v.items = w.items ∧ v.toList = s.part w.toList := by
  rw [slice, Slice.checkStep_of_consecutive h]
  exact exists_ofBounds_add s w.start_le_stop w.stop_le_length

theorem Source.slice_of_consecutive (t : Source) {s : Slice} (h : s.Consecutive) :
    ∃ w, t.slice s = .ok w ∧ w.items = t.items ∧ w.toList = s.part t.items := by
  have hmove := Window.exists_ofBounds_add s (Nat.zero_le t.items.length) (Nat.le_refl _)
  rw [Nat.zero_add, Nat.zero_add, Nat.sub_zero, List.drop_zero, List.take_length] at hmove
  rw [slice, Slice.checkStep_of_consecutive h]
  exact hmove

/-! ### Searching -/

/-- The first offset in the range at which an equal element stands. -/
def IsFirst (xs : List Value) (item : Value) (r : SearchRange) (p : Nat) : Prop :=
  r.lower xs.length ≤ p ∧ p < r.upper xs.length ∧ xs[p]?.any (·.same item) = true ∧
    ∀ q, r.lower xs.length ≤ q → q < p → xs[q]?.any (·.same item) = false

theorem position?_eq_some_iff {xs : List Value} {item : Value} {r : SearchRange} {p : Nat} :
    position? xs item r = some p ↔ IsFirst xs item r p := by
  have hle := r.upper_le xs.length
  have hpart : ∀ k, r.lower xs.length + k < r.upper xs.length →
      (r.part xs)[k]? = xs[r.lower xs.length + k]? := by
    intro k hk
    rw [SearchRange.part, List.getElem?_drop, List.getElem?_take_of_lt hk]
  have hlength : (r.part xs).length = r.upper xs.length - r.lower xs.length := by
    rw [SearchRange.part, List.length_drop, List.length_take_of_le hle]
  constructor
  · intro h
    obtain ⟨hlow, hhigh, hsame⟩ := getElem?_position? h
    refine ⟨hlow, hhigh, hsame, fun q hq hqp => ?_⟩
    obtain ⟨k, hk, rfl⟩ := Option.map_eq_some_iff.mp h
    obtain ⟨j, rfl⟩ := Nat.exists_eq_add_of_le hq
    obtain ⟨_, _, hbefore⟩ := List.findIdx?_eq_some_iff_getElem.mp hk
    have hj := hbefore j (by omega)
    rw [← hpart j (by omega), List.getElem?_eq_getElem (by omega)]
    simpa using hj
  · rintro ⟨hlow, hhigh, hsame, hbefore⟩
    obtain ⟨k, rfl⟩ := Nat.exists_eq_add_of_le hlow
    refine Option.map_eq_some_iff.mpr ⟨k, ?_, rfl⟩
    refine List.findIdx?_eq_some_iff_getElem.mpr ⟨by omega, ?_, fun j hj => ?_⟩
    · rw [← hpart k hhigh, List.getElem?_eq_getElem (by omega)] at hsame
      simpa using hsame
    · have hj' := hbefore (r.lower xs.length + j) (by omega) (by omega)
      rw [← hpart j (by omega), List.getElem?_eq_getElem (by omega)] at hj'
      simpa using hj'

/-! ### Positions found by looks -/

namespace SearchRange

variable (r : SearchRange)

/-- A start that is moved by the length and then kept from going below zero. -/
theorem toNat_start (n : Nat) :
    (if r.start.getD 0 < 0 then max (n + r.start.getD 0) 0 else r.start.getD 0).toNat =
      r.lower n := by
  unfold lower
  cases r.start with
  | none => rfl
  | some b =>
    simp only [Option.getD_some]
    by_cases hb : b < 0
    · rw [if_pos hb, if_pos hb]
      omega
    · rw [if_neg hb, if_neg hb]

/-- A stop may be moved below zero, or lie behind the end: it keeps the same positions out. -/
theorem lt_upper_iff {n p : Nat} (hp : p < n) :
    p < r.upper n ↔ (r.stop.map fun (e : Int) => if e < 0 then e + n else e).all
      (fun b => decide ((p : Int) < b)) = true := by
  unfold upper
  cases r.stop with
  | none => simpa using hp
  | some e =>
    simp only [Option.map_some, Option.all_some, decide_eq_true_eq]
    by_cases he : e < 0
    · rw [if_pos he, if_pos he]
      omega
    · rw [if_neg he, if_neg he]
      omega

end SearchRange

/-- The search by looks finds the first position in its range. -/
theorem View.position_eq_ok_iff {v : View} {xs : List Value} (h : v.Shows xs) {item : Value}
    {r : SearchRange} {p : Nat} :
    v.position item r.start r.stop = .ok p ↔ IsFirst xs item r p := by
  have hlength : xs[p]?.any (·.same item) = true → p < xs.length := by
    intro hfound
    refine Nat.lt_of_not_le fun hge => ?_
    rw [List.getElem?_eq_none hge] at hfound
    cases hfound
  rw [position, h.length]
  simp only [r.toNat_start]
  rw [h.seek_eq_ok_iff (by omega)]
  constructor
  · rintro ⟨hlow, hhigh, hfound, hbefore⟩
    exact ⟨hlow, (r.lt_upper_iff (hlength hfound)).mpr hhigh, hfound, hbefore⟩
  · rintro ⟨hlow, hhigh, hfound, hbefore⟩
    exact ⟨hlow, (r.lt_upper_iff (hlength hfound)).mp hhigh, hfound, hbefore⟩

namespace Operand

theorem foundOr_eq_ok_iff {f : Fault} {found : Option Nat} {p : Nat} :
    foundOr f found = .ok p ↔ found = some p := by
  cases found <;> simp [foundOr]

theorem foundOr_eq_error_iff {f g : Fault} {found : Option Nat} :
    foundOr f found = .error g ↔ found = none ∧ f = g := by
  cases found <;> simp [foundOr]

end Operand

/-! ### Refinement -/

/-- What is asked of an operand on some items is answered from the list of its elements, as their
tuple answers it. Its slices show the slices of the tuple, as windows on the same items. -/
structure Operand.RefinesTuple (items : List Value) (x : Operand) (o : List Value) : Prop where
  elements : x.elements? = some o
  length : Program.answer x .length = .ok (.value (.int o.length))
  get_front : ∀ (i : Nat) (h : i < o.length), x.get i = .ok o[i]
  get_back : ∀ (i : Nat) (h : i < o.length), x.get ((i : Int) - o.length) = .ok o[i]
  get_outside : ∀ k : Int, k < -(o.length : Int) ∨ (o.length : Int) ≤ k →
    ∃ f, x.get k = .error f ∧ f.kind = .index
  slice : ∀ s : Slice, s.Consecutive → ∃ w, x.slice s = .ok (.window w) ∧ w.items = items ∧
    (Operand.value (.tuple o)).slice s = .ok (.value (.tuple w.toList))
  slice_stepped : ∀ s : Slice, ¬ s.Consecutive → ∃ f, x.slice s = .error f ∧ f.kind = .value
  list : Program.answer x .list = .ok (.value (.list o)) ∧
    Program.answer (.value (.tuple o)) .list = .ok (.value (.list o))
  reversed : Program.answer x .reversed = .ok (.value (.list o.reverse)) ∧
    Program.answer (.value (.tuple o)) .reversed = .ok (.value (.list o.reverse))
  contains : ∀ item, x.contains item = .ok (o.any (·.same item)) ∧
    (Operand.value (.tuple o)).contains item = .ok (o.any (·.same item))
  count : ∀ item, x.count item = .ok (o.countP (·.same item)) ∧
    (Operand.value (.tuple o)).count item = .ok (o.countP (·.same item))
  position : ∀ item r,
    (∀ p, x.position item r = .ok p ↔ (Operand.value (.tuple o)).position item r = .ok p) ∧
    (x.position item r = .error .notFound ↔
      (Operand.value (.tuple o)).position item r = .error .notInTuple) ∧
    (∀ f, x.position item r = .error f → f.kind = .value) ∧
    (∀ f, (Operand.value (.tuple o)).position item r = .error f → f.kind = .value) ∧
    ∀ p, x.position item r = .ok p ↔ IsFirst o item r p

/-- A search by looks and a search in the tuple find the same position, and where there is none both
refuse the item. -/
theorem View.position_refines {v : View} {o : List Value} (h : v.Shows o) (item : Value)
    (r : SearchRange) :
    (∀ p, v.position item r.start r.stop = .ok p ↔
      (Operand.value (.tuple o)).position item r = .ok p) ∧
    (v.position item r.start r.stop = .error .notFound ↔
      (Operand.value (.tuple o)).position item r = .error .notInTuple) ∧
    (∀ f, v.position item r.start r.stop = .error f → f.kind = .value) ∧
    (∀ f, (Operand.value (.tuple o)).position item r = .error f → f.kind = .value) ∧
    ∀ p, v.position item r.start r.stop = .ok p ↔ IsFirst o item r p := by
  have hok : ∀ p, v.position item r.start r.stop = .ok p ↔
      (Operand.value (.tuple o)).position item r = .ok p := fun p => by
    rw [position_eq_ok_iff h, Operand.position, Operand.foundOr_eq_ok_iff, position?_eq_some_iff]
  have htuple : ∀ f, (Operand.value (.tuple o)).position item r = .error f → f = .notInTuple :=
    fun f hf => (Operand.foundOr_eq_error_iff.mp hf).2.symm
  refine ⟨hok, ⟨fun hnone => ?_, fun hnone => ?_⟩, fun f hf => ?_, fun f hf => ?_,
    fun p => position_eq_ok_iff h⟩
  · cases hfound : (Operand.value (.tuple o)).position item r with
    | error f => rw [htuple f hfound]
    | ok p =>
      rw [(hok p).mpr hfound] at hnone
      cases hnone
  · cases hfound : v.position item r.start r.stop with
    | error f => rw [h.seek_eq_error hfound]
    | ok p =>
      rw [(hok p).mp hfound] at hnone
      cases hnone
  · rw [h.seek_eq_error hf]
    rfl
  · rw [htuple f hf]
    rfl

/-- A window that shows what a slice takes from some elements shows the slice of their tuple. -/
theorem Operand.map_window {s : Slice} (hs : s.Consecutive) {r : Except Fault Window}
    {items o : List Value}
    (h : ∃ w, r = .ok w ∧ w.items = items ∧ w.toList = s.part o) :
    ∃ w, r.map Operand.window = .ok (.window w) ∧ w.items = items ∧
      (Operand.value (.tuple o)).slice s = .ok (.value (.tuple w.toList)) := by
  obtain ⟨w, rfl, hitems, hlist⟩ := h
  refine ⟨w, rfl, hitems, ?_⟩
  rw [slice, Slice.select_of_consecutive hs, Except.map, hlist]

theorem Source.refinesTuple (t : Source) : (Operand.source t).RefinesTuple t.items t.items where
  elements := rfl
  length := rfl
  get_front := fun i h => itemAt_natCast _ _ i h
  get_back := fun i h => itemAt_sub_length _ _ i h
  get_outside := fun _ hk => t.get_outside hk
  slice := fun _ hs => Operand.map_window hs (t.slice_of_consecutive hs)
  slice_stepped := by
    intro s hs
    obtain ⟨f, hf, hstep⟩ := Slice.checkStep_of_not_consecutive hs .steppedSource rfl
    rw [Operand.slice, Source.slice, hf]
    exact ⟨f, rfl, hstep⟩
  list := by
    refine ⟨?_, rfl⟩
    rw [Program.answer, Operand.list_source]
    rfl
  reversed := by
    refine ⟨?_, rfl⟩
    rw [Program.answer, Operand.reversed, t.view_shows.reversed_eq]
    rfl
  contains := fun _ => ⟨rfl, rfl⟩
  count := fun item => ⟨t.view_shows.count_eq item, rfl⟩
  position := View.position_refines t.view_shows

theorem Window.refinesTuple (w : Window) : (Operand.window w).RefinesTuple w.items w.toList where
  elements := rfl
  length := by
    rw [Program.answer, Operand.length, w.view_shows.length]
    rfl
  get_front := fun _ h => w.get_natCast h
  get_back := fun _ h => w.get_sub_length h
  get_outside := fun _ hk => w.get_outside hk
  slice := fun _ hs => Operand.map_window hs (w.slice_of_consecutive hs)
  slice_stepped := by
    intro s hs
    obtain ⟨f, hf, hstep⟩ := Slice.checkStep_of_not_consecutive hs .steppedWindow rfl
    rw [Operand.slice, Window.slice, hf]
    exact ⟨f, rfl, hstep⟩
  list := by
    refine ⟨?_, rfl⟩
    rw [Program.answer, Operand.list_window]
    rfl
  reversed := by
    refine ⟨?_, rfl⟩
    rw [Program.answer, Operand.reversed, w.view_shows.reversed_eq]
    rfl
  contains := fun item => ⟨w.view_shows.contains_eq item, rfl⟩
  count := fun item => ⟨w.view_shows.count_eq item, rfl⟩
  position := View.position_refines w.view_shows

/-! ### Chains of slices -/

theorem Source.splitEnd?_eq_some {vs body : List Value} {v : Value}
    (h : splitEnd? vs = some (body, v)) : vs = body ++ [v] := by
  induction vs generalizing body with
  | nil => cases h
  | cons u vs ih =>
    cases vs with
    | nil =>
      cases h
      rfl
    | cons u' vs =>
      obtain ⟨⟨rest, w⟩, hrest, heq⟩ := Option.map_eq_some_iff.mp h
      cases heq
      rw [ih hrest, List.cons_append]

theorem Source.items_of_ofItems {items : List Value} {t : Source} (h : ofItems items = .ok t) :
    t.items = items := by
  unfold ofItems at h
  split at h
  · next body hsplit =>
    split at h
    · cases h
      exact (splitEnd?_eq_some hsplit).symm
    · cases h
  · cases h

theorem Window.items_of_ofBounds {items : List Value} {start stop : Int} {w : Window}
    (h : ofBounds items start stop = .ok w) : w.items = items := by
  unfold ofBounds at h
  split at h
  · cases h
    rfl
  · cases h

namespace Operand

/-- What comes from some items, given or decoded, by a constructor and any slices after it. -/
inductive CutFrom (items : List Value) : Operand → Prop where
  | source {t : Source} : Source.ofItems items = .ok t → CutFrom items (.source t)
  | decoded {text : Text} {t : Source} :
      Source.decode text = .ok t → t.items = items → CutFrom items (.source t)
  | window {start stop : Int} {w : Window} :
      Window.ofBounds items start stop = .ok w → CutFrom items (.window w)
  | slice {x y : Operand} {s : Slice} : CutFrom items x → x.slice s = .ok y → CutFrom items y

namespace RefinesTuple

variable {items o : List Value} {x : Operand} (h : x.RefinesTuple items o)
include h

theorem exists_slice {s : Slice} (hs : s.Consecutive) :
    ∃ w, x.slice s = .ok (.window w) ∧ w.items = items ∧ w.toList = s.part o := by
  obtain ⟨w, hw, hitems, htuple⟩ := h.slice s hs
  refine ⟨w, hw, hitems, ?_⟩
  rw [Operand.slice, Slice.select_of_consecutive hs, Except.map] at htuple
  exact (Value.tuple.inj (Operand.value.inj (Except.ok.inj htuple))).symm

/-- A slice that is not refused is a window on the same items. -/
theorem exists_window {s : Slice} {y : Operand} (hy : x.slice s = .ok y) :
    ∃ w, y = .window w ∧ w.items = items := by
  by_cases hs : s.Consecutive
  · obtain ⟨w, hw, hitems, -⟩ := h.exists_slice hs
    rw [hw] at hy
    cases hy
    exact ⟨w, rfl, hitems⟩
  · obtain ⟨f, hf, -⟩ := h.slice_stepped s hs
    rw [hf] at hy
    cases hy

theorem slice_ne_windowBounds (s : Slice) (start stop : Int) (n : Nat) :
    x.slice s ≠ .error (.windowBounds start stop n) := by
  intro hbounds
  by_cases hs : s.Consecutive
  · obtain ⟨w, hw, -⟩ := h.exists_slice hs
    rw [hw] at hbounds
    cases hbounds
  · obtain ⟨f, hf, hstep⟩ := h.slice_stepped s hs
    rw [hf] at hbounds
    cases hbounds
    cases hstep

end RefinesTuple

namespace CutFrom

variable {items : List Value} {x : Operand}

/-- Slices lead from sources and windows to windows, and never to other items. -/
theorem source_or_window (h : x.CutFrom items) :
    (∃ t, x = .source t ∧ t.items = items) ∨ ∃ w, x = .window w ∧ w.items = items := by
  induction h with
  | source ht => exact .inl ⟨_, rfl, Source.items_of_ofItems ht⟩
  | decoded _ hitems => exact .inl ⟨_, rfl, hitems⟩
  | window hw => exact .inr ⟨_, rfl, Window.items_of_ofBounds hw⟩
  | slice _ hy ih =>
    rcases ih with ⟨t, rfl, rfl⟩ | ⟨w, rfl, rfl⟩
    · exact .inr (t.refinesTuple.exists_window hy)
    · exact .inr (w.refinesTuple.exists_window hy)

/-- A chain of slices gives what the same chain takes from the elements. -/
theorem exists_foldlM {o : List Value} (h : x.CutFrom items) (ho : x.RefinesTuple items o)
    {cuts : List Slice} (hcuts : ∀ s ∈ cuts, s.Consecutive) :
    ∃ y, cuts.foldlM (fun x s => x.slice s) x = .ok y ∧ y.CutFrom items ∧
      y.elements? = some (cuts.foldl (fun o s => s.part o) o) := by
  induction cuts generalizing x o with
  | nil => exact ⟨x, rfl, h, ho.elements⟩
  | cons s cuts ih =>
    obtain ⟨hs, hcuts⟩ := List.forall_mem_cons.mp hcuts
    obtain ⟨w, hw, rfl, hlist⟩ := ho.exists_slice hs
    obtain ⟨y, hy, hcut, helements⟩ := ih (h.slice hw) w.refinesTuple hcuts
    refine ⟨y, ?_, hcut, ?_⟩
    · rw [List.foldlM_cons, hw]
      exact hy
    · rw [List.foldl_cons, ← hlist]
      exact helements

end CutFrom

end Operand

/-- **Sources and windows refine the tuple of their elements**, through any chain of slices. A
window shows its items from its start to its stop, both of them offsets into the items that the
chain began with; every question is answered as the tuple answers it; and a slice is refused for its
step only. -/
theorem cutFrom_refines_tuple {items : List Value} {x : Operand} (h : x.CutFrom items) :
    ∃ o, x.RefinesTuple items o ∧
      ((∃ t, x = .source t ∧ o = items) ∨
        ∃ w, x = .window w ∧ w.items = items ∧ w.start ≤ w.stop ∧ w.stop ≤ items.length ∧
          x.owned = .ok o ∧ o = (Slice.between (some w.start) (some w.stop)).part items) ∧
      (∀ (s : Slice) (start stop : Int) (n : Nat),
        x.slice s ≠ .error (.windowBounds start stop n)) ∧
      ∀ cuts : List Slice, (∀ s ∈ cuts, s.Consecutive) →
        ∃ y, cuts.foldlM (fun x s => x.slice s) x = .ok y ∧ y.CutFrom items ∧
          y.elements? = some (cuts.foldl (fun o s => s.part o) o) := by
  rcases h.source_or_window with ⟨t, rfl, rfl⟩ | ⟨w, rfl, rfl⟩
  · refine ⟨t.items, t.refinesTuple, .inl ⟨t, rfl, rfl⟩, t.refinesTuple.slice_ne_windowBounds,
      fun cuts hcuts => h.exists_foldlM t.refinesTuple hcuts⟩
  · have hpart := Slice.part_between w.items w.start_le_stop w.stop_le_length
    exact ⟨w.toList, w.refinesTuple,
      .inr ⟨w, rfl, rfl, w.start_le_stop, w.stop_le_length, rfl, hpart.symm⟩,
      w.refinesTuple.slice_ne_windowBounds, fun cuts hcuts => h.exists_foldlM w.refinesTuple hcuts⟩

/-- A window on a window on a source, both cut by bounds from the end and out of range, and once
more by bounds that are out of order. -/
theorem cutFrom_refines_tuple_nested :
    let t := Source.ofCharacters (text "abcde")
    let x := Operand.window ⟨t.items, 3, 5, by decide, by decide⟩
    x.CutFrom t.items ∧ ∃ o, x.RefinesTuple t.items o ∧
      ∃ y, [Slice.between (some 7) (some (-9))].foldlM (fun x s => Operand.slice s x) x = .ok y ∧
        y.CutFrom t.items ∧ y.elements? = some ((Slice.between (some 7) (some (-9))).part o) := by
  intro t x
  have hsource : (Operand.source t).CutFrom t.items := .source rfl
  have houter : (Operand.window ⟨t.items, 1, 5, by decide, by decide⟩).CutFrom t.items :=
    hsource.slice (s := .between (some (-5)) (some (-1))) rfl
  have hx : x.CutFrom t.items := houter.slice (s := .between (some (-2)) (some 100)) rfl
  obtain ⟨o, ho, -, -, hchain⟩ := cutFrom_refines_tuple hx
  obtain ⟨y, hy, hcut, helements⟩ := hchain [.between (some 7) (some (-9))]
    (List.forall_mem_singleton.mpr rfl)
  exact ⟨hx, o, ho, y, hy, hcut, helements⟩

end Caret

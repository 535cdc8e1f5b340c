import Caret.Proofs.LoneSurrogates
import Caret.Proofs.TupleRefinement

/-!
# The end marker

The end marker stands in a source once, and last. A list of elements that is not so makes no source,
and is refused for what is wrong at its end first. Slices keep the items and move two offsets, so
what is cut from a source shows the marker just if it shows anything and stops where the source
stops, however often it has been cut. Main statement: this is so of every list of elements and of
whatever a program makes, and a scanner that asks for nothing but the marker stops there.
-/

namespace Caret

/-! ### Marked lists -/

/-- The marker stands in the list once, and last. -/
structure MarkedOnce (xs : List Value) : Prop where
  once : xs.countP Value.isEot = 1
  last : xs.getLast? = some .eot

theorem countP_isEot_eq_zero_iff {xs : List Value} :
    xs.countP Value.isEot = 0 ↔ ∀ v ∈ xs, v.isEot = false := by
  simp only [List.countP_eq_zero, Bool.not_eq_true]

/-- A list that ends in the marker is marked once if nothing before is the marker. -/
theorem markedOnce_concat_iff {body : List Value} :
    MarkedOnce (body ++ [Value.eot]) ↔ ∀ v ∈ body, v.isEot = false := by
  have hcount : (body ++ [Value.eot]).countP Value.isEot = body.countP Value.isEot + 1 := by
    rw [List.countP_append]
    rfl
  rw [← countP_isEot_eq_zero_iff]
  constructor
  · intro h
    have honce := h.once
    rw [hcount] at honce
    omega
  · intro h
    exact ⟨by omega, List.getLast?_concat⟩

namespace Source

theorem markedOnce_items (s : Source) : MarkedOnce s.items :=
  markedOnce_concat_iff.mpr s.body_unmarked

theorem ofItems_of_last {items : List Value} (h : items.getLast? ≠ some .eot) :
    ofItems items = .error .unmarkedEnd := by
  unfold ofItems
  split
  · next hsplit =>
    rw [splitEnd?_eq_some hsplit, List.getLast?_concat] at h
    exact absurd rfl h
  · rfl

theorem ofItems_of_early {items : List Value} (hlast : items.getLast? = some .eot)
    (hearly : .eot ∈ items.dropLast) : ofItems items = .error .earlyEnd := by
  obtain ⟨body, rfl⟩ := List.getLast?_eq_some_iff.mp hlast
  rw [List.dropLast_concat] at hearly
  rw [ofItems, splitEnd?_concat]
  exact dif_neg fun h => Bool.noConfusion (h .eot hearly)

theorem exists_ofItems_iff {items : List Value} :
    (∃ s, ofItems items = .ok s) ↔ MarkedOnce items := by
  constructor
  · rintro ⟨s, hs⟩
    rw [← items_of_ofItems hs]
    exact s.markedOnce_items
  · intro h
    obtain ⟨body, rfl⟩ := List.getLast?_eq_some_iff.mp h.last
    exact ⟨⟨body, markedOnce_concat_iff.mp h⟩, ofItems_items ⟨body, markedOnce_concat_iff.mp h⟩⟩

theorem getElem?_items_eq_eot_iff (s : Source) {i : Nat} :
    s.items[i]? = some .eot ↔ i + 1 = s.length := by
  have hlength : s.length = s.body.length + 1 := List.length_append
  rw [items, hlength]
  by_cases hbody : i < s.body.length
  · rw [List.getElem?_append_left hbody]
    constructor
    · intro h
      cases s.body_unmarked _ (List.mem_of_getElem? h)
    · omega
  · rw [List.getElem?_append_right (Nat.le_of_not_lt hbody), List.getElem?_singleton]
    split
    · simp only [true_iff]
      omega
    · simp only [reduceCtorEq, false_iff]
      omega

theorem getElem_items_eq_eot_iff (s : Source) {i : Nat} (h : i < s.items.length) :
    s.items[i] = .eot ↔ i + 1 = s.length := by
  rw [← s.getElem?_items_eq_eot_iff, List.getElem?_eq_getElem h, Option.some_inj]

/-! ### Scanning -/

theorem lt_of_get {s : Source} {index : Int} {v : Value} (h : s.get index = .ok v) :
    index < s.length := by
  have hok : (s.get index).isOk = true := by
    rw [h]
    rfl
  exact ((isOk_itemAt_iff _ _ _).mp hok).2

/-- Reads one element after the other up to the marker. The length of the source is not asked for. -/
def scan (s : Source) (index : Int) : Except Fault Int :=
  match h : s.get index with
  | .error f => .error f
  | .ok v => if v.isEot then .ok index else s.scan (index + 1)
termination_by (s.length - index).toNat
decreasing_by
  have hlt := lt_of_get h
  omega

theorem scan_of_get {s : Source} {index : Int} {v : Value} (h : s.get index = .ok v) :
    s.scan index = if v.isEot then .ok index else s.scan (index + 1) := by
  rw [scan]
  split
  · next hget =>
    rw [h] at hget
    cases hget
  · next hget =>
    rw [h] at hget
    cases hget
    rfl

/-- Wherever counting begins, the scan stops at the last element. -/
theorem scan_of_reads {s : Source} {shift : Int}
    (hget : ∀ (i : Nat) (h : i < s.items.length), s.get (i + shift) = .ok s.items[i])
    {i d : Nat} (hi : i + d + 1 = s.length) :
    s.scan (i + shift) = .ok (s.length - 1 + shift) := by
  have hlength : s.length = s.items.length := rfl
  induction d generalizing i with
  | zero =>
    have hlt : i < s.items.length := by omega
    have hlast : s.items[i] = .eot := (s.getElem_items_eq_eot_iff hlt).mpr hi
    rw [scan_of_get (hget i hlt), hlast, ← hi]
    exact congrArg Except.ok (by omega)
  | succ d ih =>
    have hlt : i < s.items.length := by omega
    have hbefore : s.items[i].isEot = false := by
      rw [Bool.eq_false_iff, ne_eq, Value.isEot_iff, s.getElem_items_eq_eot_iff hlt]
      omega
    have hnext : (i : Int) + shift + 1 = (i + 1 : Nat) + shift := by omega
    rw [scan_of_get (hget i hlt), hbefore, hnext]
    exact ih (by omega)

/-- The scan meets the marker from every index, and no other element on the way is the marker. -/
structure ScansToMarker (s : Source) : Prop where
  front : ∀ i : Int, 0 ≤ i → i < s.length → s.scan i = .ok (s.length - 1)
  back : ∀ i : Int, -(s.length : Int) ≤ i → i < 0 → s.scan i = .ok (-1)
  once : ∀ i : Int, 0 ≤ i → i < s.length → (s.get i = .ok .eot ↔ i = s.length - 1)

theorem scansToMarker (s : Source) : s.ScansToMarker where
  front := by
    intro i hpos hlt
    obtain ⟨k, rfl⟩ := Int.eq_ofNat_of_zero_le hpos
    have hget : ∀ (i : Nat) (h : i < s.items.length), s.get (i + 0) = .ok s.items[i] := by
      intro i h
      rw [Int.add_zero]
      exact itemAt_natCast _ _ i h
    have hscan := scan_of_reads hget (i := k) (d := s.length - 1 - k) (by omega)
    rwa [Int.add_zero, Int.add_zero] at hscan
  back := by
    intro i hlow hneg
    obtain ⟨k, hk⟩ : ∃ k : Nat, i = k + -(s.length : Int) := ⟨(i + s.length).toNat, by omega⟩
    have hget : ∀ (i : Nat) (h : i < s.items.length),
        s.get (i + -(s.length : Int)) = .ok s.items[i] := fun i h => itemAt_sub_length _ _ i h
    have hscan := scan_of_reads hget (i := k) (d := s.length - 1 - k) (by omega)
    rw [hk, hscan]
    exact congrArg Except.ok (by omega)
  once := by
    intro i hpos hlt
    obtain ⟨k, rfl⟩ := Int.eq_ofNat_of_zero_le hpos
    have hk : k < s.items.length := Int.ofNat_lt.mp hlt
    rw [get, itemAt_natCast _ _ k hk, Except.ok.injEq, s.getElem_items_eq_eot_iff hk]
    omega

end Source

/-! ### Windows -/

/-- What a window on a source shows of the marker. -/
structure Window.EndMarked (s : Source) (w : Window) : Prop where
  once : w.toList.countP Value.isEot ≤ 1
  last : ∀ i, w.toList[i]? = some .eot → i + 1 = w.length
  shown : .eot ∈ w.toList ↔ 0 < w.length ∧ w.stop = s.length

theorem Window.getElem?_toList_eq_eot_iff {s : Source} {w : Window} (hitems : w.items = s.items)
    {i : Nat} : w.toList[i]? = some .eot ↔ i < w.length ∧ w.start + i + 1 = s.length := by
  by_cases hi : i < w.toList.length
  · rw [List.getElem?_eq_getElem hi, ← w.getElem?_toList hi, hitems, s.getElem?_items_eq_eot_iff]
    rw [length_toList] at hi
    exact (and_iff_right hi).symm
  · rw [List.getElem?_eq_none (Nat.le_of_not_lt hi)]
    rw [length_toList] at hi
    simp [hi]

theorem Window.endMarked {s : Source} {w : Window} (hitems : w.items = s.items) :
    w.EndMarked s where
  once := by
    have hcut : w.toList.Sublist s.items := by
      rw [toList, hitems]
      exact (List.drop_sublist ..).trans (List.take_sublist ..)
    rw [← s.markedOnce_items.once]
    exact hcut.countP_le
  last := by
    intro i hi
    obtain ⟨hlt, hend⟩ := (getElem?_toList_eq_eot_iff hitems).mp hi
    have hstop := w.stop_le_length
    rw [hitems, ← Source.length] at hstop
    rw [length] at hlt ⊢
    omega
  shown := by
    have hstop := w.stop_le_length
    rw [hitems, ← Source.length] at hstop
    rw [List.mem_iff_getElem?]
    constructor
    · rintro ⟨i, hi⟩
      obtain ⟨hlt, hend⟩ := (getElem?_toList_eq_eot_iff hitems).mp hi
      rw [length] at hlt ⊢
      omega
    · rintro ⟨hpos, hend⟩
      refine ⟨w.length - 1, (getElem?_toList_eq_eot_iff hitems).mpr ?_⟩
      rw [length] at hpos ⊢
      omega

/-! ### Programs -/

namespace Program

/-- The result of a step is what it does with the results before it. -/
theorem getElem?_runFrom (memory : Memory) (steps : List Step) (k : Nat) :
    (runFrom memory steps)[k]? = steps[k]?.map
      (step (memory ++ ((runFrom memory steps).take k).map Except.toOption)) := by
  induction steps generalizing memory k with
  | nil => rfl
  | cons a steps ih =>
    cases k with
    | zero => simp [runFrom]
    | succ k => simp [runFrom, ih]

/-- A step that refers to an operand refers to an earlier result. -/
theorem getElem?_run_of_operandAt {steps : List Step} {n k : Nat} {o : Operand}
    (h : operandAt (((run steps).take k).map Except.toOption) n = .ok o) :
    (run steps)[n]? = some (.ok o) := by
  unfold operandAt at h
  split at h
  · next o' hn =>
    cases h
    rw [List.getElem?_map] at hn
    obtain ⟨r, hr, ho⟩ := Option.map_eq_some_iff.mp hn
    obtain rfl : r = .ok o := by
      cases r with
      | error f => cases ho
      | ok _ => exact congrArg Except.ok (Option.some.inj ho)
    rw [List.getElem?_take] at hr
    split at hr
    · exact hr
    · cases hr
  · cases h

theorem map_ne_source {α : Type} {r : Except Fault α} {f : α → Operand}
    (hf : ∀ a s, f a ≠ .source s) (s : Source) : r.map f ≠ .ok (.source s) := by
  intro h
  obtain ⟨a, -, ha⟩ := map_eq_ok_iff.mp h
  exact hf a s ha

theorem bind_ne_source {α : Type} {r : Except Fault α} {f : α → Except Fault Operand} {s : Source}
    (hf : ∀ a, f a ≠ .ok (.source s)) : (r >>= f) ≠ .ok (.source s) := by
  intro h
  obtain ⟨a, -, ha⟩ := bind_eq_ok_iff.mp h
  exact hf a ha

theorem slice_ne_source (o : Operand) (cut : Slice) (s : Source) :
    o.slice cut ≠ .ok (.source s) := by
  cases o with
  | source t => exact map_ne_source (by nofun) s
  | window w => exact map_ne_source (by nofun) s
  | value v =>
    cases v with
    | text t => exact map_ne_source (by nofun) s
    | list xs => exact map_ne_source (by nofun) s
    | tuple xs => exact map_ne_source (by nofun) s
    | _ => nofun

theorem answer_ne_source (o : Operand) (question : Question) (s : Source) :
    answer o question ≠ .ok (.source s) := by
  cases question with
  | slice cut => exact slice_ne_source o cut s
  | _ => exact map_ne_source (by nofun) s

/-- Only two kinds of steps make a source. -/
theorem made_source {steps : List Step} {k : Nat} {s : Source}
    (h : (run steps)[k]? = some (.ok (.source s))) :
    (∃ t, steps[k]? = some (.decode t) ∧ Source.decode t = .ok s) ∨
      steps[k]? = some (.source s.items) := by
  rw [run, getElem?_runFrom] at h
  obtain ⟨a, ha, hstep⟩ := Option.map_eq_some_iff.mp h
  rw [ha]
  cases a with
  | failed fault => cases hstep
  | decode t =>
    obtain ⟨_, ht, heq⟩ := map_eq_ok_iff.mp hstep
    cases heq
    exact .inl ⟨t, rfl, ht⟩
  | source items =>
    obtain ⟨_, hs, heq⟩ := map_eq_ok_iff.mp hstep
    cases heq
    rw [Source.items_of_ofItems hs]
    exact .inr rfl
  | window items start stop => exact absurd hstep (map_ne_source (by nofun) s)
  | value v => cases hstep
  | ask subject question =>
    exact absurd hstep (bind_ne_source fun o => answer_ne_source o question s)
  | same left right =>
    exact absurd hstep (bind_ne_source fun _ => bind_ne_source fun _ => nofun)
  | differ left right =>
    exact absurd hstep (bind_ne_source fun _ => bind_ne_source fun _ => nofun)
  | sameHash left right =>
    exact absurd hstep (bind_ne_source fun _ => bind_ne_source fun _ =>
      bind_ne_source fun _ => bind_ne_source fun _ => nofun)

/-- The step is reached from the other by slices alone, each of what the one before has left. -/
inductive SlicedFrom (steps : List Step) (origin : Nat) : Nat → Prop where
  | origin : SlicedFrom steps origin origin
  | slice {i k : Nat} {cut : Slice} : SlicedFrom steps origin i →
      steps[k]? = some (.ask i (.slice cut)) → SlicedFrom steps origin k

theorem source_or_window_of_slicedFrom {steps : List Step} {j k : Nat} {s : Source} {o : Operand}
    (h : SlicedFrom steps j k) (hj : (run steps)[j]? = some (.ok (.source s)))
    (hk : (run steps)[k]? = some (.ok o)) :
    o = .source s ∨ ∃ w, o = .window w ∧ w.items = s.items := by
  induction h generalizing o with
  | origin =>
    rw [hj] at hk
    cases hk
    exact .inl rfl
  | @slice i k cut _ hcut ih =>
    rw [run, getElem?_runFrom, hcut, Option.map_some, Option.some_inj] at hk
    obtain ⟨x, hx, hslice⟩ := bind_eq_ok_iff.mp hk
    rcases ih (getElem?_run_of_operandAt hx) with rfl | ⟨v, rfl, hv⟩
    · exact .inr (s.refinesTuple.exists_window hslice)
    · rw [← hv]
      exact .inr (v.refinesTuple.exists_window hslice)

end Program

/-- **The marker stands once, and last.** A list makes a source if and only if the marker stands in
it once and last. If it does not stand last the list is refused for that, and for an earlier marker
otherwise. Every source that a program makes is marked so, and what is cut from it by slices of
slices shows the marker at its end or nowhere: at its end just if it shows anything and stops where
the source stops. A scan from any index of any source ends at the marker, and the items of a source
make an equal source again. -/
theorem marked_once_and_last :
    (∀ items : List Value,
      ((∃ s, Source.ofItems items = .ok s) ↔ MarkedOnce items) ∧
      (∀ s, Source.ofItems items = .ok s → s.items = items) ∧
      (items.getLast? ≠ some .eot → Source.ofItems items = .error .unmarkedEnd) ∧
      (items.getLast? = some .eot → .eot ∈ items.dropLast →
        Source.ofItems items = .error .earlyEnd)) ∧
    (Fault.unmarkedEnd.kind = .value ∧
      Fault.unmarkedEnd.message = text "character sequence must end with EOT") ∧
    (Fault.earlyEnd.kind = .value ∧
      Fault.earlyEnd.message = text "EOT may only appear at the final position") ∧
    (∀ steps j s, (Program.run steps)[j]? = some (.ok (.source s)) →
      MarkedOnce s.items ∧
      ((∃ t, steps[j]? = some (.decode t) ∧ Source.decode t = .ok s) ∨
        steps[j]? = some (.source s.items)) ∧
      ∀ k o, Program.SlicedFrom steps j k → (Program.run steps)[k]? = some (.ok o) →
        o = .source s ∨ ∃ w, o = .window w ∧ w.items = s.items ∧ w.EndMarked s) ∧
    ∀ s : Source, s.ScansToMarker ∧ (Operand.source s).items.bind Source.ofItems = .ok s ∧
      s.same s = true := by
  refine ⟨fun items => ⟨Source.exists_ofItems_iff, fun s => Source.items_of_ofItems,
    Source.ofItems_of_last, Source.ofItems_of_early⟩, ⟨rfl, rfl⟩, ⟨rfl, rfl⟩, fun steps j s hj => ?_,
    fun s => ⟨s.scansToMarker, s.ofItems_items, s.same_refl⟩⟩
  refine ⟨s.markedOnce_items, Program.made_source hj, fun k o hsliced hk => ?_⟩
  rcases Program.source_or_window_of_slicedFrom hsliced hj hk with rfl | ⟨w, rfl, hitems⟩
  · exact .inl rfl
  · exact .inr ⟨w, rfl, hitems, Window.endMarked hitems⟩

/-- A source that is decoded, cut from its second element on and cut again to the last one. -/
theorem marked_once_and_last_nested :
    let steps : List Program.Step := [.decode (text "ab"),
      .ask 0 (.slice (.between (some 1) none)), .ask 1 (.slice (.between (some (-1)) (some 9)))]
    let s := Source.ofCharacters (text "ab")
    (Program.run steps)[0]? = some (.ok (.source s)) ∧ Program.SlicedFrom steps 0 2 ∧
      MarkedOnce s.items ∧ s.scan (-3) = .ok (-1) ∧
      Source.ofItems [.eot, .eot] = .error .earlyEnd ∧ Source.ofItems [] = .error .unmarkedEnd ∧
      ∃ w, (Program.run steps)[2]? = some (.ok (.window w)) ∧ w.EndMarked s := by
  intro steps s
  obtain ⟨hlists, -, -, hruns, hsources⟩ := marked_once_and_last
  have hs : (Program.run steps)[0]? = some (.ok (.source s)) := rfl
  have hsliced : Program.SlicedFrom steps 0 2 :=
    .slice (.slice .origin (k := 1) rfl) rfl
  obtain ⟨hmarked, -, hslices⟩ := hruns steps 0 s hs
  let w : Window := ⟨s.items, 2, 3, by decide, by decide⟩
  have hw : (Program.run steps)[2]? = some (.ok (.window w)) := rfl
  refine ⟨hs, hsliced, hmarked, (hsources s).1.back (-3) (by decide) (by decide),
    (hlists _).2.2.2 rfl (.head _), (hlists []).2.2.1 nofun, w, hw, ?_⟩
  rcases hslices 2 _ hsliced hw with heq | ⟨v, heq, -, hv⟩
  · cases heq
  · cases heq
    exact hv

end Caret

import Caret.Proofs.PointerScans

/-!
# Masking keeps positions

A mask has one column for each element, and what stands in it depends on that element alone. So a
part of a sequence has that part of its mask, in which order the two are taken, and there is nothing
left to hide in a mask. Main statement: so it is for sequences of every kind, and through any chain of
slices.
-/

namespace Caret

/-! ### One column for each element -/

/-- The character stands for the element: it is that, if it is one printable character, and else a
dot. -/
def Value.ShownAs (v : Value) (c : CodePoint) : Prop :=
  v = .text [c] ∧ c.isBetween ' ' '~' = true ∨
    (∀ d, v = .text [d] → d.isBetween ' ' '~' = false) ∧ c = CodePoint.ofChar '.'

theorem Value.shownAs_mask (v : Value) : v.ShownAs v.mask := by
  by_cases hprint : v.isPrint = true
  · obtain ⟨c, hc, hp⟩ := (Option.any_eq_true ..).mp hprint
    obtain rfl := char?_eq_some_iff.mp hc
    have hmask : (Value.text [c]).mask = c := mask_ofCodePoint hp
    rw [hmask]
    exact .inl ⟨rfl, hp⟩
  · have hnot := Bool.eq_false_iff.mpr hprint
    refine .inr ⟨?_, mask_eq_dot hnot⟩
    rintro d rfl
    exact hnot

theorem Value.ShownAs.unique {v : Value} {c d : CodePoint} (hc : v.ShownAs c) (hd : v.ShownAs d) :
    c = d := by
  rcases hc with ⟨rfl, hc⟩ | ⟨hnone, rfl⟩
  · rcases hd with ⟨heq, -⟩ | ⟨hnone, -⟩
    · simpa using heq
    · rw [hnone c rfl] at hc
      cases hc
  · rcases hd with ⟨rfl, hd⟩ | ⟨-, rfl⟩
    · rw [hnone d rfl] at hd
      cases hd
    · rfl

/-- The characters of a mask, each by the element in its place. -/
theorem getElem?_mask_iff {xs : List Value} {i : Nat} {c : CodePoint} :
    (mask xs)[i]? = some c ↔ ∃ v, xs[i]? = some v ∧ v.ShownAs c := by
  rw [mask, List.getElem?_map, Option.map_eq_some_iff]
  constructor
  · rintro ⟨v, hv, rfl⟩
    exact ⟨v, hv, v.shownAs_mask⟩
  · rintro ⟨v, hv, hc⟩
    exact ⟨v, hv, v.shownAs_mask.unique hc⟩

/-! ### Parts -/

theorem Slice.part_map {α β : Type} (s : Slice) (f : α → β) (xs : List α) :
    s.part (xs.map f) = (s.part xs).map f := by
  rw [part, part, List.length_map, List.map_drop, List.map_take]

theorem mask_part (s : Slice) (xs : List Value) : mask (s.part xs) = s.part (mask xs) :=
  (s.part_map Value.mask xs).symm

theorem Sequence.exists_part (s : Sequence) {cut : Slice} (h : cut.Consecutive) :
    ∃ part : Sequence, s.operand.slice cut = .ok part.operand ∧
      part.elements = cut.part s.elements := by
  cases s with
  | text t =>
    refine ⟨.text (cut.part t), ?_, (cut.part_map _ t).symm⟩
    rw [operand, Operand.slice, Slice.select_of_consecutive h]
    rfl
  | list xs =>
    refine ⟨.list (cut.part xs), ?_, rfl⟩
    rw [operand, Operand.slice, Slice.select_of_consecutive h]
    rfl
  | tuple xs =>
    refine ⟨.tuple (cut.part xs), ?_, rfl⟩
    rw [operand, Operand.slice, Slice.select_of_consecutive h]
    rfl
  | source t =>
    obtain ⟨w, hw, -, hlist⟩ := t.slice_of_consecutive h
    refine ⟨.window w, ?_, hlist⟩
    rw [operand, Operand.slice, hw]
    rfl
  | window v =>
    obtain ⟨w, hw, -, hlist⟩ := v.slice_of_consecutive h
    refine ⟨.window w, ?_, hlist⟩
    rw [operand, Operand.slice, hw]
    rfl

/-- Slices of slices, each taking every element between its bounds. -/
def Operand.cut (o : Operand) (cuts : List Slice) : Except Fault Operand :=
  cuts.foldlM (fun o cut => o.slice cut) o

/-- A chain of slices takes the same part of a sequence and of its mask. -/
theorem Sequence.exists_cut (s : Sequence) {cuts : List Slice}
    (h : ∀ cut ∈ cuts, cut.Consecutive) :
    ∃ part : Sequence, s.operand.cut cuts = .ok part.operand ∧
      (Sequence.text (mask s.elements)).operand.cut cuts =
        .ok (.value (.text (mask part.elements))) := by
  induction cuts generalizing s with
  | nil => exact ⟨s, rfl, rfl⟩
  | cons cut cuts ih =>
    obtain ⟨hcut, hcuts⟩ := List.forall_mem_cons.mp h
    obtain ⟨next, hnext, helements⟩ := s.exists_part hcut
    obtain ⟨part, hpart, hmasked⟩ := ih next hcuts
    refine ⟨part, ?_, ?_⟩
    · rw [Operand.cut, List.foldlM_cons, hnext]
      exact hpart
    · rw [helements, mask_part] at hmasked
      rw [Operand.cut, List.foldlM_cons, operand, Operand.slice, Slice.select_of_consecutive hcut]
      exact hmasked

/-! ### Answers -/

theorem Sequence.answer_masked (s : Sequence) :
    Program.answer s.operand .masked = .ok (.value (.text (mask s.elements))) := by
  rw [Program.answer, s.list_operand]
  rfl

/-- **Masking keeps positions.** The mask of a sequence, of whatever kind and elements, is as long as
the sequence, and the character at each place stands for the element there. The mask of a part is
that part of the mask, through any chain of slices. A mask is its own mask, and so is a text just if
all of its characters are printable. -/
theorem mask_keeps_positions (s : Sequence) :
    let xs := s.elements
    Program.answer s.operand .masked = .ok (.value (.text (mask xs))) ∧
    Program.answer s.operand .length = .ok (.value (.int (mask xs).length)) ∧
    (∀ (i : Nat) c, (mask xs)[i]? = some c ↔ ∃ v : Value, xs[i]? = some v ∧ v.ShownAs c) ∧
    (∀ (i : Nat) v, xs[i]? = some v → s.operand.get i = .ok v) ∧
    (∀ cuts : List Slice, (∀ cut ∈ cuts, cut.Consecutive) →
      ∃ part u, s.operand.cut cuts = .ok part ∧
        Program.answer part .masked = .ok (.value (.text u)) ∧
        (Operand.value (.text (mask xs))).cut cuts = .ok (.value (.text u))) ∧
    Program.answer (.value (.text (mask xs))) .masked = .ok (.value (.text (mask xs))) ∧
    ∀ t, Program.answer (.value (.text t)) .masked = .ok (.value (.text t)) ↔
      ∀ c ∈ t, c.isBetween ' ' '~' = true := by
  intro xs
  have hlength : Program.answer s.operand .length = .ok (.value (.int xs.length)) := by
    rw [Program.answer, s.length_operand]
    rfl
  refine ⟨s.answer_masked, ?_, fun i c => getElem?_mask_iff, ?_, fun cuts hcuts => ?_, ?_, ?_⟩
  · rw [length_mask]
    exact hlength
  · intro i v hv
    obtain ⟨hi, rfl⟩ := List.getElem?_eq_some_iff.mp hv
    exact s.reader_shows.look i hi
  · obtain ⟨part, hpart, hmasked⟩ := s.exists_cut hcuts
    exact ⟨part.operand, mask part.elements, hpart, part.answer_masked, hmasked⟩
  · have hmasked := (Sequence.text (mask xs)).answer_masked
    rwa [show mask (Sequence.text (mask xs)).elements = mask xs from mask_mask xs] at hmasked
  · intro t
    have hmasked : Program.answer (.value (.text t)) .masked = .ok (.value (.text t.mask)) :=
      (Sequence.text t).answer_masked
    rw [hmasked, Except.ok.injEq, Operand.value.injEq, Value.text.injEq]
    exact Text.mask_eq_self_iff

/-- A window that is cut twice, from bounds out of range and from the end, over a marker, a longer
text and a break. -/
theorem mask_keeps_positions_nested :
    let items : List Value := [.int 1, .text (text "x"), .eot, .text (text "ab"), .text (text "\n"),
      .text (text "~")]
    let s := Sequence.window ⟨items, 1, 6, by decide, by decide⟩
    let cuts := [Slice.between (some (-9)) (some (-1)), Slice.between (some 1) (some 40)]
    (∃ part, s.operand.cut cuts = .ok part ∧
      Program.answer part .masked = .ok (.value (.text (text "...")))) ∧
    s.operand.get 4 = .ok (.text (text "~")) ∧
    Program.answer s.operand .masked = .ok (.value (.text (text "x...~"))) := by
  intro items s cuts
  have hmask : mask s.elements = text "x...~" := by decide
  have hcuts : ∀ cut ∈ cuts, cut.Consecutive := by simp [cuts, Slice.Consecutive, Slice.between]
  obtain ⟨hmasked, -, -, hget, hchain, -⟩ := mask_keeps_positions s
  obtain ⟨part, u, hpart, hanswer, hcut⟩ := hchain cuts hcuts
  have hdots : (Operand.value (.text (mask s.elements))).cut cuts =
      .ok (.value (.text (text "..."))) := by
    rw [hmask]
    rfl
  obtain rfl : text "..." = u := by simpa using hdots.symm.trans hcut
  exact ⟨⟨part, hpart, hanswer⟩, hget 4 _ rfl, hmask ▸ hmasked⟩

end Caret

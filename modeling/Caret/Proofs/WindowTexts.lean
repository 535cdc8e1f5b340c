import Caret.Proofs.Decoding
import Caret.Proofs.TupleRefinement

/-!
# Texts of windows

A source has one element more than its text, the end marker, and a window on it may or may not show
the marker. Bounds are counted against what is cut, with the marker where it shows, and a window that
is cut again counts them against itself. Main statement: a window that stops short of the marker is
written as the part of the text between its offsets, and any other that shows something is refused
with the place of the marker in it.
-/

namespace Caret

/-! ### Writing -/

/-- The first element that is no text is the one that is reported. -/
theorem joinTexts_append_eot (bad : Nat → Value → Fault) (k : Nat) (cs : Text)
    (rest : List Value) : joinTexts bad k (cs.map Value.ofCodePoint ++ .eot :: rest) =
      .error (bad (k + cs.length) .eot) := by
  induction cs generalizing k with
  | nil => rfl
  | cons c cs ih =>
    have hplace : k + 1 + cs.length = k + (cs.length + 1) := by omega
    rw [List.map_cons, List.cons_append, Value.ofCodePoint, joinTexts, ih, List.length_cons, hplace]
    rfl

theorem Slice.part_self {α : Type} (xs : List α) (a : Nat) :
    (between (some a) (some a)).part xs = [] := by
  have hupper : (between (some a) (some a)).upper xs.length =
      (between (some a) (some a)).lower xs.length := Nat.max_self _
  rw [part, hupper]
  exact List.drop_eq_nil_of_le (List.length_take_le ..)

/-! ### Offsets -/

theorem Window.offsets_of_ofBounds {items : List Value} {start stop : Int} {w : Window}
    (h : ofBounds items start stop = .ok w) : w.start = start.toNat ∧ w.stop = stop.toNat := by
  unfold ofBounds at h
  split at h
  · cases h
    exact ⟨rfl, rfl⟩
  · cases h

/-- A window that is cut again keeps its items and moves its offsets. -/
theorem Window.slice_offsets (v : Window) {cut : Slice} (h : cut.Consecutive) :
    ∃ w, v.slice cut = .ok w ∧ w.items = v.items ∧ w.start = v.start + cut.lower v.length ∧
      w.stop = v.start + cut.upper v.length ∧ w.toList = cut.part v.toList := by
  obtain ⟨w, hw, hitems, hlist⟩ := v.slice_of_consecutive h
  have hbounds := hw
  rw [slice, Slice.checkStep_of_consecutive h] at hbounds
  obtain ⟨hstart, hstop⟩ := offsets_of_ofBounds hbounds
  rw [Int.toNat_natCast] at hstart hstop
  exact ⟨w, hw, hitems, hstart, hstop, hlist⟩

theorem Source.slice_offsets (s : Source) {cut : Slice} (h : cut.Consecutive) :
    ∃ w, s.slice cut = .ok w ∧ w.items = s.items ∧ w.start = cut.lower s.length ∧
      w.stop = cut.upper s.length ∧ w.toList = cut.part s.items := by
  obtain ⟨w, hw, hitems, hlist⟩ := s.slice_of_consecutive h
  have hbounds := hw
  rw [slice, Slice.checkStep_of_consecutive h] at hbounds
  obtain ⟨hstart, hstop⟩ := Window.offsets_of_ofBounds hbounds
  rw [Int.toNat_natCast] at hstart hstop
  exact ⟨w, hw, hitems, hstart, hstop, hlist⟩

/-! ### Extracts -/

/-- The window is copied into a list as that, and so is the tuple that it is copied into. -/
def Window.CopiedAs (w : Window) (r : Except Fault Operand) : Prop :=
  Program.answer (.window w) .list = r ∧
    (Program.answer (.window w) .owned).bind (Program.answer · .list) = r

/-- What a window on a source whose text is `body` gives, if it shows what stands from offset `a` up
to offset `b`, or nothing where these are out of order. -/
structure Extract (s : Source) (body : Text) (a b : Nat) (w : Window) : Prop where
  items : w.items = s.items
  text : b ≤ a ∨ b ≤ s.length - 1 → ∃ u,
    (Operand.value (.text body)).slice (.between (some a) (some (max a b : Nat))) =
      .ok (.value (.text u)) ∧
    Program.answer (.window w) .joined = .ok (.value (.text u))
  marker : ¬ (b ≤ a ∨ b ≤ s.length - 1) →
    Program.answer (.window w) .joined = .error (.notCharacter (s.length - 1 - a) .eot)
  copied : w.CopiedAs
    ((Operand.value (.list s.items)).slice (.between (some a) (some (max a b : Nat))))

theorem Window.copiedAs_of_part {xs : List Value} {w : Window} {p q : Option Int}
    (h : w.toList = (Slice.between p q).part xs) :
    w.CopiedAs ((Operand.value (.list xs)).slice (.between p q)) := by
  have hcut : (Operand.value (.list xs)).slice (.between p q) = .ok (.value (.list w.toList)) := by
    rw [Operand.slice, Slice.select_between, ← h]
    rfl
  rw [hcut]
  refine ⟨?_, rfl⟩
  rw [Program.answer, Operand.list_window]
  rfl

section Extracts

variable {cs : Text} {w : Window} (hitems : w.items = (Source.ofCharacters cs).items)
include hitems

theorem toList_short_of_marker (h : w.stop ≤ cs.length) :
    w.toList = ((cs.take w.stop).drop w.start).map Value.ofCodePoint := by
  rw [Window.toList, hitems, Source.items_ofCharacters, List.take_append_of_le_length (by simpa),
    List.map_drop, List.map_take]

theorem toList_with_marker (hstart : w.start ≤ cs.length) (hstop : cs.length < w.stop) :
    w.toList = (cs.drop w.start).map Value.ofCodePoint ++ [.eot] := by
  have hall : (Source.ofCharacters cs).items.length ≤ w.stop := by
    rw [Source.length_items_ofCharacters]
    exact hstop
  rw [Window.toList, hitems, List.take_of_length_le hall, Source.items_ofCharacters,
    List.drop_append_of_le_length (by simpa), List.map_drop]

/-- A window on the items of a text is an extract from its start up to its stop. -/
theorem extract_of_offsets {a b : Nat} (hstart : w.start = a) (hstop : w.stop = max a b) :
    Extract (Source.ofCharacters cs) cs a b w := by
  have hlength := Source.length_items_ofCharacters cs
  have hmarker : (Source.ofCharacters cs).length - 1 = cs.length := by
    rw [Source.length, hlength]
    rfl
  have hend : max a b ≤ (Source.ofCharacters cs).items.length := by
    rw [← hstop, ← hitems]
    exact w.stop_le_length
  have hlist : w.toList =
      (Slice.between (some a) (some (max a b : Nat))).part (Source.ofCharacters cs).items := by
    rw [Slice.part_between _ (Nat.le_max_left a b) hend, Window.toList, hitems, hstart, hstop]
  have hjoined : Program.answer (.window w) .joined =
      (joinTexts .notCharacter 0 w.toList).map fun t => .value (.text t) := by
    rw [Program.answer, Operand.joined_window]
  refine ⟨hitems, fun hshort => ?_, fun hlong => ?_, Window.copiedAs_of_part hlist⟩
  · rw [hmarker] at hshort
    refine ⟨(Slice.between (some a) (some (max a b : Nat))).part cs, ?_, ?_⟩
    · rw [Operand.slice, Slice.select_between]
      rfl
    · by_cases hempty : b ≤ a
      · -- the start may lie behind the marker, where the text has no offset any more
        rw [Nat.max_eq_left hempty] at hlist ⊢
        rw [Slice.part_self] at hlist ⊢
        rw [hjoined, hlist]
        rfl
      · have hle : max a b ≤ cs.length := by omega
        rw [Slice.part_between cs (Nat.le_max_left a b) hle, hjoined,
          toList_short_of_marker hitems (by omega), Source.joinTexts_map_ofCodePoint, hstart, hstop]
        rfl
  · rw [hmarker] at hlong ⊢
    have hplace : 0 + (cs.drop a).length = cs.length - a := by
      rw [Nat.zero_add, List.length_drop]
    rw [hjoined, toList_with_marker hitems (by omega) (by omega), hstart, joinTexts_append_eot,
      hplace]
    rfl

end Extracts

/-- **What is written and copied of a window.** Of every slice of a source, and of every slice of a
window on it, the bounds being counted against what is cut, the text is the part of the source's text
between the offsets that they come to. If the end marker is in sight there is none, and the fault
names the place of the marker in the window. The elements are copied in either case. -/
theorem windows_of_decoded {t : Text} {s : Source} (h : Source.decode t = .ok s) :
    ∃ body, s.toText = .ok body ∧
      (∀ p q : Option Int,
        let a := (p.map (Slice.place s.length)).getD 0
        let b := (q.map (Slice.place s.length)).getD s.length
        ∃ w, s.slice (.between p q) = .ok w ∧ Extract s body a b w ∧
          w.CopiedAs ((Operand.value (.list s.items)).slice (.between p q))) ∧
      (∀ v : Window, v.items = s.items → ∀ p q : Option Int,
        let a := v.start + (p.map (Slice.place v.length)).getD 0
        let b := v.start + (q.map (Slice.place v.length)).getD v.length
        ∃ w, v.slice (.between p q) = .ok w ∧ Extract s body a b w ∧
          w.CopiedAs ((Operand.value (.list v.toList)).slice (.between p q))) ∧
      ∀ k, (Fault.notCharacter k .eot).kind = .value ∧
        (Fault.notCharacter k .eot).message = text "element " ++ Text.ofNat k ++
          text " is " ++ text "EOT" ++
          text ", not a character; slice the view short of the EOT marker before unslicing" := by
  obtain ⟨cs, -, rfl⟩ := Source.decode_eq_ok h
  have hcut : ∀ p q, (Slice.between p q).Consecutive := fun _ _ => rfl
  refine ⟨cs, Source.toText_ofCharacters cs, fun p q => ?_, fun v hv p q => ?_,
    fun _ => ⟨rfl, rfl⟩⟩
  · obtain ⟨w, hw, hitems, hstart, hstop, hlist⟩ :=
      (Source.ofCharacters cs).slice_offsets (hcut p q)
    exact ⟨w, hw, extract_of_offsets hitems hstart hstop, Window.copiedAs_of_part hlist⟩
  · obtain ⟨w, hw, hitems, hstart, hstop, hlist⟩ := v.slice_offsets (hcut p q)
    refine ⟨w, hw, extract_of_offsets (hitems.trans hv) hstart ?_, Window.copiedAs_of_part hlist⟩
    rw [hstop]
    exact (Nat.add_max_add_left ..).symm

/-- A window that begins inside the text and is cut again, once up to the marker and once before it. -/
theorem windows_of_decoded_nested :
    let s := Source.ofCharacters (text "abc")
    let v : Window := ⟨s.items, 1, 4, by decide, by decide⟩
    Source.decode (text "abc") = .ok s ∧
    (∃ w, v.slice (.between (some (-2)) none) = .ok w ∧
      Program.answer (.window w) .joined = .error (.notCharacter 1 .eot)) ∧
    ∃ w, v.slice (.between (some (-9)) (some (-1))) = .ok w ∧
      Program.answer (.window w) .joined = .ok (.value (.text (text "bc"))) := by
  intro s v
  have hs : Source.decode (text "abc") = .ok s := rfl
  obtain ⟨body, hbody, -, hnested, -⟩ := windows_of_decoded hs
  obtain rfl : text "abc" = body := Except.ok.inj hbody
  obtain ⟨w, hw, hlong, -⟩ := hnested v rfl (some (-2)) none
  obtain ⟨w', hw', hshort, -⟩ := hnested v rfl (some (-9)) (some (-1))
  obtain ⟨u, hu, htext⟩ := hshort.text (.inr (by decide))
  obtain rfl : u = text "bc" := (Value.text.inj (Operand.value.inj (Except.ok.inj hu))).symm
  exact ⟨hs, ⟨w, hw, hlong.marker (by decide)⟩, w', hw', htext⟩

end Caret

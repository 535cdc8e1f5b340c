import Caret.Log.Handler

/-!
# Notes on a record

A record goes from one handler to the next. Every formatter gives it back as it was but for notes,
and what is noted of a failure is the text that would be worked out again. So a handler with the
standard layout, or with JSON, writes the same whoever has had the record before. Main statements:
formatters change nothing but notes, the colored one and JSON nothing at all, and such handlers each
write what they write of the record without notes.
-/

namespace Caret

namespace Record

variable {r r' : Record}

/-- Records that differ in notes only. -/
theorem eq_with_notes (h : r.bare = r'.bare) : r' = { r with notes := r'.notes } := by
  obtain ⟨event, origin, logger, levelName, notes⟩ := r
  obtain ⟨event', origin', logger', levelName', notes'⟩ := r'
  cases h
  rfl

/-- What is noted of the failure is its text. -/
def Sound (r : Record) : Prop :=
  r.notes.failure = none ∨ r.notes.failure = r.failure.map Failure.display

theorem sound_ofEvent (origin : Origin) (logger : Text) (e : Event) :
    (ofEvent origin logger e).Sound := .inl rfl

theorem bare_noteFailure (r : Record) : r.noteFailure.bare = r.bare := by
  unfold noteFailure
  split
  · rfl
  · split <;> rfl

theorem failure_of_bare (h : r.bare = r'.bare) : r.failure = r'.failure := by
  rw [eq_with_notes h]

theorem Sound.noteFailure (h : r.Sound) : r.noteFailure.Sound := by
  have hfailure := failure_of_bare r.bare_noteFailure
  unfold Sound
  rw [hfailure, failure_noteFailure]
  split
  · exact h
  · next f hf =>
    split
    · exact .inr (by rw [hf]; rfl)
    · exact h

/-- Noted or not, the text of the failure is the same. -/
theorem Sound.failureText (h : r.Sound) :
    Formatter.failureText r = (r.failure.map Failure.display).getD [] := by
  rw [Formatter.failureText, failure_noteFailure]
  unfold Sound at h
  cases hf : r.failure with
  | none =>
    rw [hf, Option.map_none, or_self] at h
    rw [h]
    rfl
  | some f =>
    dsimp only
    split
    · rfl
    · next hnoted =>
      rcases h with h | h
      · exact absurd (by rw [h]; rfl) hnoted
      · rw [h, hf]

end Record

namespace Formatter

open Record

variable {r r' : Record}

/-! ### What a formatter leaves behind -/

/-- Nothing but notes is left on a record by whoever writes it. -/
theorem bare_format (f : Formatter) (r : Record) : (f.format r).2.bare = r.bare := by
  cases f with
  | plain layout =>
    rw [format, writePlain]
    split
    · rfl
    · have hshown : ∀ message, (if layout.usesTime then (r.noteMessage message).noteTime
          else r.noteMessage message).bare = r.bare := by
        intro message
        split <;> rfl
      dsimp only
      split
      · exact hshown _
      · exact (bare_noteFailure _).trans (hshown _)
  | colored layout => rfl
  | json => rfl

theorem sound_format (f : Formatter) (h : r.Sound) : (f.format r).2.Sound := by
  cases f with
  | plain layout =>
    rw [format, writePlain]
    split
    · exact h
    · have hshown : ∀ message, (if layout.usesTime then (r.noteMessage message).noteTime
          else r.noteMessage message).Sound := by
        intro message
        split <;> exact h
      dsimp only
      split
      · exact hshown _
      · exact (hshown _).noteFailure
  | colored layout => exact h
  | json => exact h

/-! ### What a formatter writes -/

/-- The formatter has the layout of setups, or none. -/
def Standard : Formatter → Prop
  | .plain layout | .colored layout => layout = Layout.standard
  | .json => True

theorem writePlain_congr (hbare : r.bare = r'.bare) (h : r.Sound) (h' : r'.Sound) :
    (writePlain Layout.standard r).1 = (writePlain Layout.standard r').1 := by
  rw [writePlain_standard, writePlain_standard, h.failureText, h'.failureText,
    failure_of_bare hbare, eq_with_notes hbare]
  rfl

/-- Painting goes by the record without its notes, and takes the notes along. -/
theorem highlighted_with_notes (codes : Text) (r : Record) (notes : Notes) :
    highlighted codes { r with notes := notes } =
      (highlighted codes r).map fun copy => { copy with notes := notes } := by
  have hpoints : pointsAtColumn { r with notes := notes } = pointsAtColumn r := rfl
  have htext : ({ r with notes := notes } : Record).text = r.text := rfl
  rw [highlighted, highlighted, hpoints, htext]
  split
  · cases r.text with
    | error f => rfl
    | ok message =>
      dsimp only [Except.map]
      split <;> rfl
  · rfl

/-- A copy has the failure of the record, and what is noted of it. -/
theorem sound_of_painted {copy : Record} (h : r.Sound) (hcopy : painted r = .ok copy) :
    copy.Sound := by
  unfold painted highlighted at hcopy
  split at hcopy
  · obtain ⟨message, -, rfl⟩ := map_eq_ok_iff.mp hcopy
    split <;> exact h
  · cases hcopy
    exact h

theorem writeColored_congr (hbare : r.bare = r'.bare) (h : r.Sound) (h' : r'.Sound) :
    (writeColored Layout.standard r).1 = (writeColored Layout.standard r').1 := by
  have hpainted : painted r' = (painted r).map fun copy => { copy with notes := r'.notes } :=
    (congrArg painted (eq_with_notes hbare)).trans (highlighted_with_notes _ (named r) _)
  rw [writeColored, writeColored]
  dsimp only
  rw [hpainted]
  cases hcopy : painted r with
  | error f => rfl
  | ok copy =>
    have hsame : copy.bare = ({ copy with notes := r'.notes } : Record).bare := rfl
    have hother : ({ copy with notes := r'.notes } : Record).Sound :=
      sound_of_painted h' (by rw [hpainted, hcopy]; rfl)
    exact writePlain_congr hsame (sound_of_painted h hcopy) hother

/-- JSON has nothing of what is noted. -/
theorem writeJson_congr (hbare : r.bare = r'.bare) : writeJson r = writeJson r' := by
  rw [eq_with_notes hbare]
  rfl

/-- A formatter of setups writes the same of records that differ in notes only. -/
theorem format_congr {f : Formatter} (hf : f.Standard) (hbare : r.bare = r'.bare) (h : r.Sound)
    (h' : r'.Sound) : (f.format r).1 = (f.format r').1 := by
  cases f with
  | plain layout =>
    obtain rfl : layout = Layout.standard := hf
    exact writePlain_congr hbare h h'
  | colored layout =>
    obtain rfl : layout = Layout.standard := hf
    exact writeColored_congr hbare h h'
  | json => exact writeJson_congr hbare

end Formatter

namespace Handler

variable {r r' : Record}

/-! ### Handlers that share a record -/

theorem bare_emit (h : Handler) (r : Record) : (h.emit r).2.bare = r.bare := by
  unfold emit
  split
  · rfl
  · exact h.formatter.bare_format r

theorem sound_emit (h : Handler) (hr : r.Sound) : (h.emit r).2.Sound := by
  unfold emit
  split
  · exact hr
  · exact h.formatter.sound_format hr

theorem emit_congr {h : Handler} (hbare : r.bare = r'.bare)
    (hline : (h.formatter.format r).1 = (h.formatter.format r').1) :
    (h.emit r).1 = (h.emit r').1 := by
  have hlevel : r'.level = r.level := by rw [Record.eq_with_notes hbare]
  unfold emit
  rw [hlevel]
  split
  · rfl
  · exact congrArg h.target.put hline

/-- Each handler writes what it writes of the record as it was handed to the first. -/
theorem deliver_of_standard {hs : List Handler} (hf : ∀ h ∈ hs, h.formatter.Standard)
    (hr : r.Sound) : (deliver hs r).1 = hs.foldl (fun o h => o ++ (h.emit r).1) .empty := by
  have hfold : ∀ (o : Output) (given : Record), r.bare = given.bare → given.Sound →
      (hs.foldl hand (o, given)).1 = hs.foldl (fun o h => o ++ (h.emit r).1) o := by
    induction hs with
    | nil => exact fun _ _ _ _ => rfl
    | cons h hs ih =>
      intro o given hbare hgiven
      obtain ⟨hhead, hrest⟩ := List.forall_mem_cons.mp hf
      rw [List.foldl_cons, List.foldl_cons, hand_mk,
        emit_congr hbare (Formatter.format_congr hhead hbare hr hgiven)]
      exact ih hrest _ _ (hbare.trans (bare_emit h given).symm) (sound_emit h hgiven)
  exact hfold .empty r rfl hr

end Handler

end Caret

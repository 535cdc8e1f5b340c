import Caret.Json.Carries
import Caret.Log.Formatter
import Caret.Proofs.JsonReading
import Caret.Proofs.Overrides
import Caret.Proofs.PointerAlignment

/-!
# Records as JSON

A record is written as one object: first its own members, then the extra fields of other names, each
in its order. An extra field of an own name takes the place of that member. Main statement: every
record with plain extra fields is written as one line of ASCII, and what is read back from the line
carries the record, if no text of it holds a pair of surrogates.
-/

namespace Caret

/-! ### Texts without pairs -/

namespace Text

theorem pairs_append {s t : Text} (h : ∀ c ∈ t.head?, c.isLowSurrogate = false) :
    (s ++ t).pairs = s.pairs + t.pairs := by
  induction s with
  | nil => simp [pairs]
  | cons c s ih =>
    cases s with
    | nil =>
      cases t with
      | nil => rfl
      | cons d t => simp [pairs, h d rfl]
    | cons d s =>
      simp only [pairs, List.cons_append, List.tail_cons, List.zip_cons_cons, List.countP_cons] at ih ⊢
      omega

theorem pairs_printed_append {s t : Text} (h : Json.Printed s) : (s ++ t).pairs = t.pairs := by
  induction s with
  | nil => rfl
  | cons c s ih =>
    have hprint := CodePoint.isPrint_iff.mp (h c List.mem_cons_self)
    have hhigh : c.isHighSurrogate = false := by
      rw [Bool.eq_false_iff, ne_eq, CodePoint.isHighSurrogate_iff]
      omega
    rw [List.cons_append, pairs_cons hhigh]
    exact ih fun d hd => h d (List.mem_cons_of_mem c hd)

theorem pairs_of_printed {t : Text} (h : Json.Printed t) : t.pairs = 0 := by
  have happend : pairs (t ++ []) = pairs [] := pairs_printed_append h
  rwa [List.append_nil] at happend

/-- Nothing is joined across printed text. -/
theorem pairs_append_printed {s t : Text} (h : Json.Printed t) : (s ++ t).pairs = s.pairs := by
  have hlow : ∀ c ∈ t.head?, c.isLowSurrogate = false := by
    intro c hc
    have hprint := CodePoint.isPrint_iff.mp (h c (List.mem_of_mem_head? hc))
    rw [Bool.eq_false_iff, ne_eq, CodePoint.isLowSurrogate_iff]
    omega
  rw [pairs_append hlow, pairs_of_printed h, Nat.add_zero]

end Text

/-! ### Plain values -/

namespace Json

mutual

theorem exists_carries : ∀ v : Value, v.isPlain = true → ∃ j, Carries j v
  | .null, _ => ⟨_, .null⟩
  | .bool b, _ => ⟨_, .bool b⟩
  | .int n, _ => ⟨_, .int n⟩
  | .double _, h => by cases h
  | .text t, _ => ⟨_, .text t⟩
  | .list xs, h => by
    obtain ⟨rows, rfl, hrows⟩ := exists_carries_items xs h
    exact ⟨_, .list hrows⟩
  | .tuple xs, h => by
    obtain ⟨rows, rfl, hrows⟩ := exists_carries_items xs h
    exact ⟨_, .tuple hrows⟩
  | .dictionary es, h => by
    obtain ⟨rows, rfl, hrows⟩ := exists_carries_entries es h
    exact ⟨_, .dictionary hrows⟩
  | .eot, _ => ⟨_, .eot⟩
  | .location l, _ => ⟨_, .location l⟩
  | .failureKind name, _ => ⟨_, .failureKind name⟩
  | .failure kind message, _ => ⟨_, .failure kind message⟩

theorem exists_carries_items : ∀ xs : List Value, Value.arePlain xs = true →
    ∃ rows : List (Json × Value), rows.map (fun row => row.2) = xs ∧
      ∀ row ∈ rows, Carries row.1 row.2
  | [], _ => ⟨[], rfl, nofun⟩
  | x :: xs, h => by
    obtain ⟨hx, hxs⟩ := Bool.and_eq_true_iff.mp h
    obtain ⟨j, hj⟩ := exists_carries x hx
    obtain ⟨rows, rfl, hrows⟩ := exists_carries_items xs hxs
    exact ⟨(j, x) :: rows, rfl, List.forall_mem_cons.mpr ⟨hj, hrows⟩⟩

theorem exists_carries_entries : ∀ es : List (Value × Value), Value.entriesArePlain es = true →
    ∃ rows : List (Text × Json × Value), rows.map (fun row => (.text row.1, row.2.2)) = es ∧
      ∀ row ∈ rows, Carries row.2.1 row.2.2
  | [], _ => ⟨[], rfl, nofun⟩
  | (.text name, v) :: es, h => by
    obtain ⟨hv, hes⟩ := Bool.and_eq_true_iff.mp h
    obtain ⟨j, hj⟩ := exists_carries v hv
    obtain ⟨rows, rfl, hrows⟩ := exists_carries_entries es hes
    exact ⟨(name, j, v) :: rows, rfl, List.forall_mem_cons.mpr ⟨hj, hrows⟩⟩

end

section Rows

variable {rows : List (Json × Value)} {members : List (Text × Json × Value)}

theorem toJsonItems_rows (h : ∀ row ∈ rows, row.2.toJson = .ok row.1) :
    Value.toJsonItems (rows.map fun row => row.2) = .ok (rows.map fun row => row.1) := by
  induction rows with
  | nil => rfl
  | cons row rows ih =>
    obtain ⟨hrow, hrows⟩ := List.forall_mem_cons.mp h
    rw [List.map_cons, Value.toJsonItems, hrow, ih hrows]
    rfl

theorem toJsonMembers_rows (h : ∀ row ∈ members, row.2.2.toJson = .ok row.2.1) :
    Value.toJsonMembers (members.map fun row => (.text row.1, row.2.2)) =
      .ok (members.map fun row => (row.1, row.2.1)) := by
  induction members with
  | nil => rfl
  | cons row rows ih =>
    obtain ⟨hrow, hrows⟩ := List.forall_mem_cons.mp h
    rw [List.map_cons, Value.toJsonMembers, hrow, ih hrows]
    rfl

theorem itemsHoldDouble_rows (h : ∀ row ∈ rows, row.1.holdsDouble = false) :
    itemsHoldDouble (rows.map fun row => row.1) = false := by
  induction rows with
  | nil => rfl
  | cons row rows ih =>
    obtain ⟨hrow, hrows⟩ := List.forall_mem_cons.mp h
    rw [List.map_cons, itemsHoldDouble, hrow, ih hrows]
    rfl

theorem membersHoldDouble_rows (h : ∀ row ∈ members, row.2.1.holdsDouble = false) :
    membersHoldDouble (members.map fun row => (row.1, row.2.1)) = false := by
  induction members with
  | nil => rfl
  | cons row rows ih =>
    obtain ⟨hrow, hrows⟩ := List.forall_mem_cons.mp h
    rw [List.map_cons, membersHoldDouble, hrow, ih hrows]
    rfl

theorem joinedItems_rows (h : ∀ row ∈ rows, row.1.joined = row.1) :
    joinedItems (rows.map fun row => row.1) = rows.map fun row => row.1 := by
  induction rows with
  | nil => rfl
  | cons row rows ih =>
    obtain ⟨hrow, hrows⟩ := List.forall_mem_cons.mp h
    rw [List.map_cons, joinedItems, hrow, ih hrows]

theorem joinedMembers_rows (hnames : ∀ row ∈ members, Text.pairs row.1 = 0)
    (h : ∀ row ∈ members, row.2.1.joined = row.2.1) :
    joinedMembers (members.map fun row => (row.1, row.2.1)) =
      members.map fun row => (row.1, row.2.1) := by
  induction members with
  | nil => rfl
  | cons row rows ih =>
    obtain ⟨hname, hnames⟩ := List.forall_mem_cons.mp hnames
    obtain ⟨hrow, hrows⟩ := List.forall_mem_cons.mp h
    rw [List.map_cons, joinedMembers, hrow, ih hnames hrows, joinPairs_eq_self hname]

theorem mem_texts_of_item {row : Json × Value} (h : row ∈ rows) {t : Text} (ht : t ∈ row.2.texts) :
    t ∈ Value.textsOfItems (rows.map fun row => row.2) := by
  induction rows with
  | nil => cases h
  | cons other rows ih =>
    rw [List.map_cons, Value.textsOfItems, List.mem_append]
    rcases List.mem_cons.mp h with rfl | h
    · exact .inl ht
    · exact .inr (ih h)

theorem mem_texts_of_entry {α : Type} {es : List (Text × α)} (f : α → Value) {e : Text × α}
    (h : e ∈ es) {t : Text} (ht : t = e.1 ∨ t ∈ (f e.2).texts) :
    t ∈ Value.textsOfEntries (entries f es) := by
  induction es with
  | nil => cases h
  | cons other es ih =>
    rw [entries, List.map_cons, Value.textsOfEntries, List.mem_append]
    rcases List.mem_cons.mp h with rfl | h
    · exact .inl (List.mem_cons.mpr ht)
    · exact .inr (ih h)

end Rows

section Carried

variable {j : Json} {v : Value} (h : j.Carries v)
include h

/-- The JSON value that carries a value is the one that is written for it. -/
theorem Carries.toJson : v.toJson = .ok j := by
  induction h with
  | list _ ih => exact congrArg (Except.map array) (toJsonItems_rows ih)
  | tuple _ ih => exact congrArg (Except.map array) (toJsonItems_rows ih)
  | dictionary _ ih => exact congrArg (Except.map object) (toJsonMembers_rows ih)
  | _ => rfl

theorem Carries.holdsDouble : j.holdsDouble = false := by
  induction h with
  | list _ ih => exact itemsHoldDouble_rows ih
  | tuple _ ih => exact itemsHoldDouble_rows ih
  | dictionary _ ih => exact membersHoldDouble_rows ih
  | _ => rfl

/-- Where no text of a value holds a pair, nothing is joined. -/
theorem Carries.joined (hpairs : ∀ t ∈ v.texts, t.pairs = 0) : j.joined = j := by
  induction h with
  | null => rfl
  | bool b => rfl
  | int n => rfl
  | text t => exact congrArg Json.text (joinPairs_eq_self (hpairs t List.mem_cons_self))
  | list _ ih =>
    exact congrArg array (joinedItems_rows fun row hrow =>
      ih row hrow fun t ht => hpairs t (mem_texts_of_item hrow ht))
  | tuple _ ih =>
    exact congrArg array (joinedItems_rows fun row hrow =>
      ih row hrow fun t ht => hpairs t (mem_texts_of_item hrow ht))
  | dictionary _ ih =>
    exact congrArg object (joinedMembers_rows
      (fun row hrow => hpairs row.1 (mem_texts_of_entry Prod.snd hrow (.inl rfl)))
      fun row hrow => ih row hrow fun t ht => hpairs t (mem_texts_of_entry Prod.snd hrow (.inr ht)))
  | eot => rfl
  | location l =>
    have hcolon : Printed (Caret.text ":") := by decide
    have hprinted := ((printed_ofInt l.line).append hcolon).append (printed_ofInt l.column)
    exact congrArg Json.text (joinPairs_eq_self (Text.pairs_of_printed hprinted))
  | failureKind name =>
    have hopen : Printed (Caret.text "<class '") := by decide
    have hclose : Printed (Caret.text "'>") := by decide
    have hname : Text.pairs (Caret.text "<class '" ++ name ++ Caret.text "'>") = name.pairs := by
      rw [Text.pairs_append_printed hclose, Text.pairs_printed_append hopen]
    exact congrArg Json.text (joinPairs_eq_self (hname.trans (hpairs name List.mem_cons_self)))
  | failure kind message =>
    have hmessage := hpairs message (List.mem_cons_of_mem kind List.mem_cons_self)
    exact congrArg Json.text (joinPairs_eq_self hmessage)

end Carried

end Json

/-! ### Records -/

def Failure.texts : Failure → List Text
  | .unknown => []
  | .named kind message => [kind, message]

theorem Failure.pairs_display {f : Failure} (h : ∀ t ∈ f.texts, t.pairs = 0) :
    f.display.pairs = 0 := by
  cases f with
  | unknown => rfl
  | named kind message =>
    have hkind := h kind List.mem_cons_self
    have hmessage := h message (List.mem_cons_of_mem kind List.mem_cons_self)
    have hcolon : Json.Printed (Caret.text ": ") := by decide
    cases message with
    | nil => exact hkind
    | cons c message =>
      show Text.pairs (kind ++ Caret.text ": " ++ c :: message) = 0
      have hlow : ∀ d ∈ (Caret.text ": " ++ c :: message).head?, d.isLowSurrogate = false := by
        intro d hd
        obtain rfl := Option.some.inj hd
        decide
      rw [List.append_assoc, Text.pairs_append hlow, Text.pairs_printed_append hcolon, hkind,
        hmessage]

namespace Record

/-- The texts that a record is made of, its message being expanded. -/
def texts (r : Record) (message : Text) : List Text :=
  [r.origin.time, r.levelName, r.logger, message, r.origin.moduleName, r.origin.function] ++
    (r.failure.map Failure.texts).getD [] ++ (r.fields.map Value.texts).getD []

/-- The members that every record has, and the one that tells of its failure. -/
def ownMembers (r : Record) (message : Text) : List (Text × Json) :=
  [(Caret.text "timestamp", .text r.origin.time), (Caret.text "level", .text r.levelName),
    (Caret.text "logger", .text r.logger), (Caret.text "message", .text message),
    (Caret.text "module", .text r.origin.moduleName),
    (Caret.text "function", .text r.origin.function), (Caret.text "line", .int r.origin.line)] ++
  match r.failure with
  | none => []
  | some f => [(Caret.text "exception", .text f.display)]

end Record

namespace Formatter

open Json (Carries)

variable {r : Record} {message : Text}

/-! ### What a record is written as -/

def textRow (name : String) (t : Text) : Text × Json × Value := (text name, .text t, .text t)

/-- The own members of a record beside the values that they carry. -/
def ownRows (r : Record) (message : Text) : List (Text × Json × Value) :=
  [textRow "timestamp" r.origin.time, textRow "level" r.levelName, textRow "logger" r.logger,
    textRow "message" message, textRow "module" r.origin.moduleName,
    textRow "function" r.origin.function,
    (text "line", .int r.origin.line, .int r.origin.line)] ++
  match r.failure with
  | none => []
  | some f => [textRow "exception" f.display]

theorem members_ownRows (r : Record) (message : Text) :
    (ownRows r message).map (fun row => (row.1, row.2.1)) = r.ownMembers message := by
  unfold ownRows Record.ownMembers
  cases r.failure with
  | none => rfl
  | some f => rfl

theorem entries_ownRows (r : Record) (message : Text) :
    entries Prod.snd (ownRows r message) = ownEntries r message := by
  unfold ownRows ownEntries
  cases r.failure with
  | none => rfl
  | some f => rfl

theorem names_ownRows (r : Record) (message : Text) :
    (ownRows r message).map Prod.fst = (r.ownMembers message).map Prod.fst := by
  rw [← members_ownRows, List.map_map]
  rfl

theorem nodup_ownRows (r : Record) (message : Text) :
    ((ownRows r message).map Prod.fst).Nodup := by
  unfold ownRows
  cases r.failure with
  | none =>
    show ([text "timestamp", text "level", text "logger", text "message", text "module",
      text "function", text "line"] : List Text).Nodup
    decide
  | some f =>
    show ([text "timestamp", text "level", text "logger", text "message", text "module",
      text "function", text "line", text "exception"] : List Text).Nodup
    decide

theorem carries_ownRows (r : Record) (message : Text) :
    ∀ row ∈ ownRows r message, Carries row.2.1 row.2.2 := by
  have htext : ∀ name t, Carries (textRow name t).2.1 (textRow name t).2.2 :=
    fun _ t => .text t
  unfold ownRows
  cases r.failure with
  | none => simp [htext, Carries.int]
  | some f => simp [htext, Carries.int]

/-- The extra fields beside the JSON values that carry them, their texts being masked. -/
theorem exists_extraRows {extra : List (Text × Value)} (hplain : ∀ e ∈ extra, e.2.isPlain = true) :
    ∃ rows : List (Text × Json × Value),
      rows.map (fun row => (row.1, row.2.2)) = extra.map (fun e => (e.1, maskedField e.2)) ∧
        ∀ row ∈ rows, Carries row.2.1 row.2.2 := by
  induction extra with
  | nil => exact ⟨[], rfl, nofun⟩
  | cons e extra ih =>
    obtain ⟨he, hextra⟩ := List.forall_mem_cons.mp hplain
    have hmasked : (maskedField e.2).isPlain = true := by
      unfold maskedField
      split
      · rfl
      · exact he
    obtain ⟨j, hj⟩ := Json.exists_carries (maskedField e.2) hmasked
    obtain ⟨rows, hrows, hcarries⟩ := ih hextra
    refine ⟨(e.1, j, maskedField e.2) :: rows, ?_, List.forall_mem_cons.mpr ⟨hj, hcarries⟩⟩
    rw [List.map_cons, hrows]
    rfl

theorem withFields_rows {own rows : List (Text × Json × Value)} {extra : List (Text × Value)}
    (hrows : rows.map (fun row => (row.1, row.2.2)) = extra.map fun e => (e.1, maskedField e.2))
    (hown : (own.map Prod.fst).Nodup) (hextra : (rows.map Prod.fst).Nodup)
    {fields : Option Value} (hfields : fields = none ∧ extra = [] ∨
      fields = some (.dictionary (extra.map fun e => (.text e.1, e.2)))) :
    withFields (entries Prod.snd own) fields = .ok (entries Prod.snd (overridden own rows)) := by
  have hentries : entries Prod.snd rows = extra.map fun e => (.text e.1, maskedField e.2) := by
    have hmap := congrArg (List.map fun e : Text × Value => (Value.text e.1, e.2)) hrows
    rw [List.map_map, List.map_map] at hmap
    exact hmap
  rcases hfields with ⟨rfl, rfl⟩ | rfl
  · obtain rfl : rows = [] := List.map_eq_nil_iff.mp hrows
    rw [overridden_nil]
    rfl
  · rw [withFields, ← foldl_insertEntry Prod.snd hown hextra, hentries, List.foldl_map,
      List.foldl_map]

/-- A record is written as the object of its rows. -/
theorem writeJson_rows {r : Record} {message : Text} (htext : r.text = .ok message)
    {rows : List (Text × Json × Value)}
    (hfields : withFields (ownEntries r message) r.fields = .ok (entries Prod.snd rows))
    (hcarries : ∀ row ∈ rows, Carries row.2.1 row.2.2) :
    writeJson r =
      .ok (Json.object (rows.map fun row => (row.1, row.2.1))).render := by
  have hjson := (Carries.dictionary hcarries).toJson
  rw [writeJson, htext]
  show (withFields (ownEntries r message) r.fields).bind _ = _
  rw [hfields]
  show (Value.toJson (.dictionary (entries Prod.snd rows))).bind _ = _
  rw [entries, hjson]
  rfl

/-! ### Texts of a record without pairs -/

/-- No text in a row holds a pair. -/
def Unpaired (row : Text × Json × Value) : Prop :=
  row.1.pairs = 0 ∧ ∀ t ∈ row.2.2.texts, t.pairs = 0

theorem unpaired_textRow {name : String} {t : Text} (hname : Json.Printed (text name))
    (h : t.pairs = 0) : Unpaired (textRow name t) :=
  ⟨Text.pairs_of_printed hname, fun u hu => by rwa [List.mem_singleton.mp hu]⟩

theorem unpaired_ownRows (h : ∀ t ∈ r.texts message, t.pairs = 0) :
    ∀ row ∈ ownRows r message, Unpaired row := by
  have hown : ∀ t ∈ [r.origin.time, r.levelName, r.logger, message, r.origin.moduleName,
      r.origin.function], t.pairs = 0 := fun t ht =>
    h t (List.mem_append_left _ (List.mem_append_left _ ht))
  have hline : Unpaired (text "line", .int r.origin.line, .int r.origin.line) := ⟨rfl, nofun⟩
  intro row hrow
  rcases List.mem_append.mp hrow with hrow | hrow
  · simp only [List.mem_cons, List.not_mem_nil, or_false] at hrow hown
    rcases hrow with rfl | rfl | rfl | rfl | rfl | rfl | rfl
    · exact unpaired_textRow (by decide) (hown _ (by simp))
    · exact unpaired_textRow (by decide) (hown _ (by simp))
    · exact unpaired_textRow (by decide) (hown _ (by simp))
    · exact unpaired_textRow (by decide) (hown _ (by simp))
    · exact unpaired_textRow (by decide) (hown _ (by simp))
    · exact unpaired_textRow (by decide) (hown _ (by simp))
    · exact hline
  · cases hfailure : r.failure with
    | none =>
      rw [hfailure] at hrow
      cases hrow
    | some f =>
      rw [hfailure] at hrow
      obtain rfl := List.mem_singleton.mp hrow
      refine unpaired_textRow (by decide) (Failure.pairs_display fun t ht => ?_)
      refine h t (List.mem_append_left _ (List.mem_append_right _ ?_))
      rw [hfailure]
      exact ht

theorem unpaired_extraRows {rows : List (Text × Json × Value)} {extra : List (Text × Value)}
    (hrows : rows.map (fun row => (row.1, row.2.2)) = extra.map fun e => (e.1, maskedField e.2))
    (h : ∀ t ∈ Value.textsOfEntries (entries id extra), t.pairs = 0) :
    ∀ row ∈ rows, Unpaired row := by
  intro row hrow
  have hmem : (row.1, row.2.2) ∈ extra.map fun e => (e.1, maskedField e.2) := by
    rw [← hrows]
    exact List.mem_map_of_mem hrow
  obtain ⟨e, he, heq⟩ := List.mem_map.mp hmem
  obtain ⟨hname, hvalue⟩ := Prod.mk.inj heq
  refine ⟨hname ▸ h e.1 (Json.mem_texts_of_entry id he (.inl rfl)), ?_⟩
  rw [← hvalue]
  unfold maskedField
  split
  · intro t ht
    rw [List.mem_singleton.mp ht]
    exact Text.pairs_of_printed fun _ hc => isPrint_of_mem_mask hc
  · exact fun t ht => h t (Json.mem_texts_of_entry id he (.inr ht))

/-! ### Reading a record back -/

/-- What the members that are read from the line of a record are: its own, an extra field in the
place of one of the same name, and the other extra fields after them in their order. An extra text
is masked, all else is as it was recorded. -/
structure ReadBack (r : Record) (message : Text) (extra : List (Text × Value))
    (members : List (Text × Json)) : Prop where
  names_eq : members.map Prod.fst = (r.ownMembers message).map Prod.fst ++
    (extra.map Prod.fst).filter fun name => !((r.ownMembers message).map Prod.fst).contains name
  nodup_names : (members.map Prod.fst).Nodup
  own : ∀ m ∈ r.ownMembers message, m.1 ∉ extra.map Prod.fst → m ∈ members
  text : ∀ name t, (name, Value.text t) ∈ extra → (name, Json.text t.mask) ∈ members
  other : ∀ name v, (name, v) ∈ extra → (∀ t, v ≠ .text t) →
    ∃ j, Carries j v ∧ (name, j) ∈ members

theorem readBack_rows {rows : List (Text × Json × Value)} {extra : List (Text × Value)}
    (hrows : rows.map (fun row => (row.1, row.2.2)) = extra.map fun e => (e.1, maskedField e.2))
    (hcarries : ∀ row ∈ rows, Carries row.2.1 row.2.2) (hkeys : (rows.map Prod.fst).Nodup) :
    ReadBack r message extra
      ((overridden (ownRows r message) rows).map fun row => (row.1, row.2.1)) := by
  have hnames : rows.map Prod.fst = extra.map Prod.fst := by
    have hmap := congrArg (List.map Prod.fst) hrows
    rwa [List.map_map, List.map_map] at hmap
  have hextra : ∀ name v, (name, v) ∈ extra → ∃ j, Carries j (maskedField v) ∧
      (name, j) ∈ (overridden (ownRows r message) rows).map fun row => (row.1, row.2.1) := by
    intro name v he
    have hmem : (name, maskedField v) ∈ rows.map fun row => (row.1, row.2.2) := by
      rw [hrows]
      exact List.mem_map.mpr ⟨_, he, rfl⟩
    obtain ⟨row, hrow, heq⟩ := List.mem_map.mp hmem
    obtain ⟨rfl, hvalue⟩ := Prod.mk.inj heq
    exact ⟨row.2.1, hvalue ▸ hcarries row hrow,
      List.mem_map.mpr ⟨row, mem_overridden_extra hkeys hrow, rfl⟩⟩
  have hfst : ((overridden (ownRows r message) rows).map fun row => (row.1, row.2.1)).map Prod.fst =
      (overridden (ownRows r message) rows).map Prod.fst := by
    rw [List.map_map]
    rfl
  refine ⟨?_, ?_, ?_, ?_, ?_⟩
  · rw [hfst, names_overridden, names_ownRows, hnames]
  · rw [hfst]
    exact nodup_names_overridden (nodup_ownRows r message) hkeys
  · intro m hm hnew
    rw [← members_ownRows] at hm
    obtain ⟨row, hrow, rfl⟩ := List.mem_map.mp hm
    exact List.mem_map.mpr ⟨row, mem_overridden_own hrow (hnames ▸ hnew), rfl⟩
  · intro name t he
    obtain ⟨j, hj, hmem⟩ := hextra name (.text t) he
    cases hj
    exact hmem
  · intro name v he hother
    have hmasked : maskedField v = v := by
      unfold maskedField
      split
      · next t => exact absurd rfl (hother t)
      · rfl
    rw [← hmasked]
    exact hextra name v he

/-- A record whose message can be expanded and whose extra fields are plain is written as one line
of ASCII, and is left as it is. What is read from the line carries the record, if no text in the
record holds a high surrogate with a low one right after it. -/
theorem json_line_carries_record {r : Record} {message : Text} {extra : List (Text × Value)}
    (htext : r.text = .ok message)
    (hfields : r.fields = none ∧ extra = [] ∨
      r.fields = some (.dictionary (extra.map fun e => (.text e.1, e.2))))
    (hkeys : (extra.map Prod.fst).Nodup) (hplain : ∀ e ∈ extra, e.2.isPlain = true) :
    ∃ line, Formatter.json.format r = (.ok line, r) ∧ (∀ c ∈ line, 0x20 ≤ c.val ∧ c.val ≤ 0x7f) ∧
      ((∀ t ∈ r.texts message, t.pairs = 0) → ∃ members,
        Json.parse? line = some (.object members) ∧ ReadBack r message extra members) := by
  obtain ⟨rows, hrows, hextra⟩ := exists_extraRows hplain
  have hnames : (rows.map Prod.fst).Nodup := by
    have hmap := congrArg (List.map Prod.fst) hrows
    rw [List.map_map, List.map_map] at hmap
    exact hmap ▸ hkeys
  have hcarries : ∀ row ∈ overridden (ownRows r message) rows, Carries row.2.1 row.2.2 := by
    intro row hrow
    rcases mem_or_mem_of_mem_overridden hrow with hrow | hrow
    · exact carries_ownRows r message row hrow
    · exact hextra row hrow
  have hwith := withFields_rows hrows (nodup_ownRows r message) hnames hfields
  rw [entries_ownRows] at hwith
  have hobject := Carries.dictionary hcarries
  refine ⟨_, congrArg (·, r) (writeJson_rows htext hwith hcarries), ?_, fun hpairs => ⟨_, ?_,
    readBack_rows hrows hextra hnames⟩⟩
  · intro c hc
    have hprint := CodePoint.isPrint_iff.mp (Json.printed_render _ hobject.holdsDouble c hc)
    omega
  · have htexts : ∀ t ∈ Value.textsOfEntries (entries id extra), t.pairs = 0 := by
      intro t ht
      rcases hfields with ⟨-, rfl⟩ | hfields
      · cases ht
      · refine hpairs t (List.mem_append_right _ ?_)
        rw [hfields]
        exact ht
    have hunpaired : ∀ row ∈ overridden (ownRows r message) rows, Unpaired row := by
      intro row hrow
      rcases mem_or_mem_of_mem_overridden hrow with hrow | hrow
      · exact unpaired_ownRows hpairs row hrow
      · exact unpaired_extraRows hrows htexts row hrow
    have hjoined : (Json.object ((overridden (ownRows r message) rows).map
        fun row => (row.1, row.2.1))).joined = _ :=
      congrArg Json.object (Json.joinedMembers_rows (fun row hrow => (hunpaired row hrow).1)
        fun row hrow => (hcarries row hrow).joined (hunpaired row hrow).2)
    rw [Json.parse?_render hobject.holdsDouble, hjoined]

/-- One extra field takes the place of the level, and one holds a pair and a nested dictionary. -/
theorem json_line_carries_record_nested :
    let nested : Value := .dictionary [(.text (text "end"), .eot), (.text (text "none"), .null)]
    let extra : List (Text × Value) :=
      [(text "level", .text (text "a\nb")), (text "more", .tuple [.int (-3), nested])]
    let r : Record :=
      { level := Level.error, message := .text (text "%d%%\n"), arguments := [.int 50]
        fields := some (.dictionary (extra.map fun e => (.text e.1, e.2)))
        failure := some (.named (text "ValueError") (text "bad\t"))
        origin := default, logger := text "app", levelName := text "ERROR", notes := .blank }
    r.text = .ok (text "50%\n") ∧ (∀ t ∈ r.texts (text "50%\n"), t.pairs = 0) ∧
      ∃ line members, Formatter.json.format r = (.ok line, r) ∧
        Json.parse? line = some (.object members) ∧
        members.map Prod.fst = [text "timestamp", text "level", text "logger", text "message",
          text "module", text "function", text "line", text "exception", text "more"] ∧
        (text "level", .text (text "a.b")) ∈ members ∧
        (text "exception", .text (text "ValueError: bad\t")) ∈ members := by
  intro nested extra r
  have htext : r.text = .ok (text "50%\n") := by
    have hexpand : r.text.toOption = some (text "50%\n") := by decide +kernel
    cases hr : r.text with
    | error f =>
      rw [hr] at hexpand
      cases hexpand
    | ok t =>
      rw [hr] at hexpand
      exact congrArg Except.ok (Option.some.inj hexpand)
  have hpairs : ∀ t ∈ r.texts (text "50%\n"), t.pairs = 0 := by decide +kernel
  obtain ⟨line, hline, -, hread⟩ :=
    @json_line_carries_record r _ extra htext (.inr rfl) (by decide) (by decide)
  obtain ⟨members, hmembers, hback⟩ := hread hpairs
  exact ⟨htext, hpairs, line, members, hline, hmembers, hback.names_eq,
    hback.text _ _ List.mem_cons_self,
    hback.own _ (List.mem_append_right _ List.mem_cons_self) (by decide)⟩

end Formatter

end Caret

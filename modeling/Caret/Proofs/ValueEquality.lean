import Caret.Value.Dictionary

/-!
# Equal values

Equality of values is decided by going through their parts, and for a dictionary by looking for each
entry of the one in the other. Main statements: it is an equivalence, and equal values are filed
under one key, or have none for parts of the same kind.
-/

namespace Caret.Value

/-! ### What equals what -/

/-- The value has no parts, and is no number. -/
def IsAtom : Value → Prop
  | .null | .text _ | .eot | .location _ | .failureKind _ | .failure .. => True
  | _ => False

theorem same_iff_of_isAtom {v w : Value} (h : v.IsAtom) : v.same w = true ↔ v = w := by
  cases v <;> cases w <;> simp_all [IsAtom, same, amount?]

theorem same_iff_of_amount {v w : Value} {a : Amount} (h : v.amount? = some a) :
    v.same w = true ↔ some a = w.amount? := by
  cases v <;> simp only [amount?, reduceCtorEq, Option.some.injEq] at h
  all_goals
    subst h
    cases w <;> simp [same, amount?]

theorem same_list_iff {xs : List Value} {w : Value} :
    (Value.list xs).same w = true ↔ ∃ ys, w = .list ys ∧ sameItems xs ys = true := by
  cases w <;> simp [same, amount?]

theorem same_tuple_iff {xs : List Value} {w : Value} :
    (Value.tuple xs).same w = true ↔ ∃ ys, w = .tuple ys ∧ sameItems xs ys = true := by
  cases w <;> simp [same, amount?]

theorem sameItems_nil_iff {ys : List Value} : sameItems [] ys = true ↔ ys = [] := by
  cases ys <;> simp [sameItems]

theorem sameItems_cons_iff {x : Value} {xs ys : List Value} : sameItems (x :: xs) ys = true ↔
    ∃ y rest, ys = y :: rest ∧ x.same y = true ∧ sameItems xs rest = true := by
  cases ys with
  | nil => simp [sameItems]
  | cons y rest =>
    rw [sameItems, Bool.and_eq_true]
    constructor
    · exact fun h => ⟨y, rest, rfl, h⟩
    · rintro ⟨_, _, heq, h⟩
      cases heq
      exact h

/-- The keys are equal, and so are the values. -/
def SameEntry (e f : Value × Value) : Prop := e.1.same f.1 = true ∧ e.2.same f.2 = true

theorem entriesWithin_iff {es fs : List (Value × Value)} :
    entriesWithin es fs = true ↔ ∀ e ∈ es, ∃ f ∈ fs, SameEntry e f := by
  induction es with
  | nil => simp [entriesWithin]
  | cons e es ih =>
    obtain ⟨k, v⟩ := e
    rw [entriesWithin, Bool.and_eq_true, ih, List.forall_mem_cons]
    simp [SameEntry]

theorem hasEntry_iff {es : List (Value × Value)} {f : Value × Value} :
    hasEntry es f.1 f.2 = true ↔ ∃ e ∈ es, SameEntry e f := by
  induction es with
  | nil => simp [hasEntry]
  | cons e es ih =>
    obtain ⟨k, v⟩ := e
    rw [hasEntry, Bool.or_eq_true, ih]
    simp [SameEntry]

/-- Dictionaries are equal if each entry of either has an equal one in the other. -/
theorem same_dictionary_iff {es : List (Value × Value)} {w : Value} :
    (Value.dictionary es).same w = true ↔ ∃ fs, w = .dictionary fs ∧
      (∀ e ∈ es, ∃ f ∈ fs, SameEntry e f) ∧ ∀ f ∈ fs, ∃ e ∈ es, SameEntry e f := by
  cases w with
  | dictionary fs => simp [same, entriesWithin_iff, hasEntry_iff]
  | _ => simp [same, amount?]

/-! ### Symmetry -/

theorem same_symm_of_isAtom {v w : Value} (hv : v.IsAtom) (h : v.same w = true) :
    w.same v = true := by
  rw [(same_iff_of_isAtom hv).mp h]
  exact same_refl w

theorem same_symm_of_amount {v w : Value} {a : Amount} (hv : v.amount? = some a)
    (h : v.same w = true) : w.same v = true :=
  (same_iff_of_amount ((same_iff_of_amount hv).mp h).symm).mpr hv.symm

mutual

theorem same_symm : ∀ {v w : Value}, v.same w = true → w.same v = true
  | .null, _, h => same_symm_of_isAtom trivial h
  | .bool _, _, h => same_symm_of_amount rfl h
  | .int _, _, h => same_symm_of_amount rfl h
  | .double _, _, h => same_symm_of_amount rfl h
  | .text _, _, h => same_symm_of_isAtom trivial h
  | .list xs, w, h => by
    obtain ⟨ys, rfl, hitems⟩ := same_list_iff.mp h
    exact same_list_iff.mpr ⟨xs, rfl, sameItems_symm hitems⟩
  | .tuple xs, w, h => by
    obtain ⟨ys, rfl, hitems⟩ := same_tuple_iff.mp h
    exact same_tuple_iff.mpr ⟨xs, rfl, sameItems_symm hitems⟩
  | .dictionary es, w, h => by
    obtain ⟨fs, rfl, hto, hfrom⟩ := same_dictionary_iff.mp h
    have hsymm := sameEntry_symm es
    refine same_dictionary_iff.mpr ⟨es, rfl, fun f hf => ?_, fun e he => ?_⟩
    · obtain ⟨e, he, hsame⟩ := hfrom f hf
      exact ⟨e, he, hsymm e he f hsame⟩
    · obtain ⟨f, hf, hsame⟩ := hto e he
      exact ⟨f, hf, hsymm e he f hsame⟩
  | .eot, _, h => same_symm_of_isAtom trivial h
  | .location _, _, h => same_symm_of_isAtom trivial h
  | .failureKind _, _, h => same_symm_of_isAtom trivial h
  | .failure _ _, _, h => same_symm_of_isAtom trivial h

theorem sameItems_symm : ∀ {xs ys : List Value}, sameItems xs ys = true → sameItems ys xs = true
  | [], ys, h => by
    obtain rfl := sameItems_nil_iff.mp h
    exact h
  | x :: xs, ys, h => by
    obtain ⟨y, rest, rfl, hx, hxs⟩ := sameItems_cons_iff.mp h
    exact sameItems_cons_iff.mpr ⟨x, xs, rfl, same_symm hx, sameItems_symm hxs⟩

theorem sameEntry_symm : ∀ es : List (Value × Value),
    ∀ e ∈ es, ∀ f, SameEntry e f → SameEntry f e
  | [] => fun _ he => absurd he List.not_mem_nil
  | (_, _) :: es => List.forall_mem_cons.mpr
    ⟨fun _ h => ⟨same_symm h.1, same_symm h.2⟩, sameEntry_symm es⟩

end

/-! ### Transitivity -/

theorem same_trans_of_isAtom {u v w : Value} (hu : u.IsAtom) (huv : u.same v = true)
    (hvw : v.same w = true) : u.same w = true := by
  rwa [(same_iff_of_isAtom hu).mp huv]

theorem same_trans_of_amount {u v w : Value} {a : Amount} (hu : u.amount? = some a)
    (huv : u.same v = true) (hvw : v.same w = true) : u.same w = true :=
  (same_iff_of_amount hu).mpr
    ((same_iff_of_amount ((same_iff_of_amount hu).mp huv).symm).mp hvw)

mutual

theorem same_trans : ∀ {u v w : Value}, u.same v = true → v.same w = true → u.same w = true
  | .null, _, _, h, k => same_trans_of_isAtom trivial h k
  | .bool _, _, _, h, k => same_trans_of_amount rfl h k
  | .int _, _, _, h, k => same_trans_of_amount rfl h k
  | .double _, _, _, h, k => same_trans_of_amount rfl h k
  | .text _, _, _, h, k => same_trans_of_isAtom trivial h k
  | .list xs, v, w, h, k => by
    obtain ⟨ys, rfl, hitems⟩ := same_list_iff.mp h
    obtain ⟨zs, rfl, kitems⟩ := same_list_iff.mp k
    exact same_list_iff.mpr ⟨zs, rfl, sameItems_trans hitems kitems⟩
  | .tuple xs, v, w, h, k => by
    obtain ⟨ys, rfl, hitems⟩ := same_tuple_iff.mp h
    obtain ⟨zs, rfl, kitems⟩ := same_tuple_iff.mp k
    exact same_tuple_iff.mpr ⟨zs, rfl, sameItems_trans hitems kitems⟩
  | .dictionary es, v, w, h, k => by
    obtain ⟨fs, rfl, hto, hfrom⟩ := same_dictionary_iff.mp h
    obtain ⟨gs, rfl, kto, kfrom⟩ := same_dictionary_iff.mp k
    have htrans := sameEntry_trans es
    refine same_dictionary_iff.mpr ⟨gs, rfl, fun e he => ?_, fun g hg => ?_⟩
    · obtain ⟨f, hf, hef⟩ := hto e he
      obtain ⟨g, hg, hfg⟩ := kto f hf
      exact ⟨g, hg, htrans e he f g hef hfg⟩
    · obtain ⟨f, hf, hfg⟩ := kfrom g hg
      obtain ⟨e, he, hef⟩ := hfrom f hf
      exact ⟨e, he, htrans e he f g hef hfg⟩
  | .eot, _, _, h, k => same_trans_of_isAtom trivial h k
  | .location _, _, _, h, k => same_trans_of_isAtom trivial h k
  | .failureKind _, _, _, h, k => same_trans_of_isAtom trivial h k
  | .failure _ _, _, _, h, k => same_trans_of_isAtom trivial h k

theorem sameItems_trans : ∀ {xs ys zs : List Value},
    sameItems xs ys = true → sameItems ys zs = true → sameItems xs zs = true
  | [], ys, zs, h, k => by
    obtain rfl := sameItems_nil_iff.mp h
    exact k
  | x :: xs, ys, zs, h, k => by
    obtain ⟨y, ys, rfl, hxy, hitems⟩ := sameItems_cons_iff.mp h
    obtain ⟨z, zs, rfl, hyz, kitems⟩ := sameItems_cons_iff.mp k
    exact sameItems_cons_iff.mpr ⟨z, zs, rfl, same_trans hxy hyz, sameItems_trans hitems kitems⟩

theorem sameEntry_trans : ∀ es : List (Value × Value),
    ∀ e ∈ es, ∀ f g, SameEntry e f → SameEntry f g → SameEntry e g
  | [] => fun _ he => absurd he List.not_mem_nil
  | (_, _) :: es => List.forall_mem_cons.mpr
    ⟨fun _ _ h k => ⟨same_trans h.1 k.1, same_trans h.2 k.2⟩, sameEntry_trans es⟩

end

/-! ### Keys of equal values -/

theorem filed_eq_mapError (v : Value) :
    v.filed = v.hashKey.mapError fun part => .unhashable part.kindName := by
  unfold filed
  cases v.hashKey with
  | ok k => rfl
  | error part => rfl

theorem mapError_hashKeys (xs : List Value) :
    ((hashKeys xs).mapError fun part => Fault.unhashable part.kindName) = xs.mapM filed := by
  induction xs with
  | nil => rfl
  | cons x xs ih =>
    rw [List.mapM_cons, ← ih, filed_eq_mapError, hashKeys]
    cases x.hashKey with
    | error part => rfl
    | ok k =>
      cases hashKeys xs with
      | error part => rfl
      | ok ks => rfl

/-- A tuple is filed by the keys of its elements, and refused with the first that has none. -/
theorem filed_tuple (xs : List Value) : (tuple xs).filed = (xs.mapM filed).map .items := by
  rw [filed_eq_mapError, hashKey, ← mapError_hashKeys]
  cases hashKeys xs with
  | error part => rfl
  | ok ks => rfl

theorem filed_of_amount {v : Value} {a : Amount} (h : v.amount? = some a) :
    v.filed = .ok (.number a.residue) := by
  cases v <;> simp only [amount?, reduceCtorEq, Option.some.injEq] at h
  all_goals
    subst h
    rfl

theorem filed_eq_of_isAtom {v w : Value} (hv : v.IsAtom) (h : v.same w = true) :
    v.filed = w.filed := by
  rw [(same_iff_of_isAtom hv).mp h]

theorem filed_eq_of_amount {v w : Value} {a : Amount} (hv : v.amount? = some a)
    (h : v.same w = true) : v.filed = w.filed := by
  rw [filed_of_amount hv, filed_of_amount ((same_iff_of_amount hv).mp h).symm]

mutual

/-- Equal values have one key, or are refused for the same reason. -/
theorem filed_eq_of_same : ∀ {v w : Value}, v.same w = true → v.filed = w.filed
  | .null, _, h => filed_eq_of_isAtom trivial h
  | .bool _, _, h => filed_eq_of_amount rfl h
  | .int _, _, h => filed_eq_of_amount rfl h
  | .double _, _, h => filed_eq_of_amount rfl h
  | .text _, _, h => filed_eq_of_isAtom trivial h
  | .list xs, w, h => by
    obtain ⟨ys, rfl, _⟩ := same_list_iff.mp h
    rfl
  | .tuple xs, w, h => by
    obtain ⟨ys, rfl, hitems⟩ := same_tuple_iff.mp h
    rw [filed_tuple, filed_tuple, mapM_filed_eq_of_same hitems]
  | .dictionary es, w, h => by
    obtain ⟨fs, rfl, _⟩ := same_dictionary_iff.mp h
    rfl
  | .eot, _, h => filed_eq_of_isAtom trivial h
  | .location _, _, h => filed_eq_of_isAtom trivial h
  | .failureKind _, _, h => filed_eq_of_isAtom trivial h
  | .failure _ _, _, h => filed_eq_of_isAtom trivial h

theorem mapM_filed_eq_of_same : ∀ {xs ys : List Value}, sameItems xs ys = true →
    xs.mapM filed = ys.mapM filed
  | [], ys, h => by rw [sameItems_nil_iff.mp h]
  | x :: xs, ys, h => by
    obtain ⟨y, rest, rfl, hx, hxs⟩ := sameItems_cons_iff.mp h
    rw [List.mapM_cons, List.mapM_cons, filed_eq_of_same hx, mapM_filed_eq_of_same hxs]

end

/-! ### Values without a key -/

/-- A list or a dictionary: what it holds may change, and it has no key. -/
def CanChange : Value → Prop
  | .list _ | .dictionary _ => True
  | _ => False

/-- The value itself, or an element at any depth of a tuple. -/
inductive HasPart : Value → Value → Prop
  | self (v : Value) : HasPart v v
  | element {xs : List Value} {x part : Value} (hx : x ∈ xs) (h : HasPart x part) :
    HasPart (.tuple xs) part

mutual

theorem hasPart_of_hashKey : ∀ {v part : Value}, v.hashKey = .error part →
    v.HasPart part ∧ part.CanChange
  | .list xs, _, h => by
    cases h
    exact ⟨.self _, trivial⟩
  | .tuple xs, _, h => by
    rw [hashKey, map_eq_error_iff] at h
    obtain ⟨x, hx, hpart, hchange⟩ := hasPart_of_hashKeys h
    exact ⟨.element hx hpart, hchange⟩
  | .dictionary es, _, h => by
    cases h
    exact ⟨.self _, trivial⟩

theorem hasPart_of_hashKeys : ∀ {xs : List Value} {part : Value}, hashKeys xs = .error part →
    ∃ x ∈ xs, x.HasPart part ∧ part.CanChange
  | x :: xs, part, h => by
    rw [hashKeys] at h
    cases hx : x.hashKey with
    | error first =>
      rw [hx] at h
      cases h
      exact ⟨x, List.mem_cons_self, hasPart_of_hashKey hx⟩
    | ok k =>
      rw [hx] at h
      obtain ⟨y, hy, hpart⟩ := hasPart_of_hashKeys (map_eq_error_iff.mp h)
      exact ⟨y, List.mem_cons_of_mem x hy, hpart⟩

end

theorem exists_hashKey_of_mem {xs : List Value} {ks : List HashKey} (h : hashKeys xs = .ok ks) :
    ∀ x ∈ xs, ∃ k, x.hashKey = .ok k := by
  induction xs generalizing ks with
  | nil => exact fun _ hx => absurd hx List.not_mem_nil
  | cons x xs ih =>
    obtain ⟨k, hk, hrest⟩ := bind_eq_ok_iff.mp h
    obtain ⟨ks, hks, _⟩ := map_eq_ok_iff.mp hrest
    exact List.forall_mem_cons.mpr ⟨⟨k, hk⟩, ih hks⟩

theorem hashKey_ne_ok_of_hasPart {v part : Value} (h : v.HasPart part) (hchange : part.CanChange)
    (k : HashKey) : v.hashKey ≠ .ok k := by
  induction h generalizing k with
  | self v =>
    cases v with
    | list xs => nofun
    | dictionary es => nofun
    | _ => cases hchange
  | element hx _ ih =>
    intro hk
    obtain ⟨ks, hks, _⟩ := map_eq_ok_iff.mp hk
    obtain ⟨l, hl⟩ := exists_hashKey_of_mem hks _ hx
    exact ih hchange l hl

/-- A part of that kind keeps the value from having a key. -/
def Keyless (kind : Text) (v : Value) : Prop :=
  ∃ part, v.HasPart part ∧ part.CanChange ∧ part.kindName = kind

theorem keyless_tuple_iff {kind : Text} {xs : List Value} :
    (tuple xs).Keyless kind ↔ ∃ x ∈ xs, x.Keyless kind := by
  constructor
  · rintro ⟨part, h, hchange, hkind⟩
    cases h with
    | self => cases hchange
    | element hx hpart => exact ⟨_, hx, part, hpart, hchange, hkind⟩
  · rintro ⟨x, hx, part, hpart, hchange, hkind⟩
    exact ⟨part, .element hx hpart, hchange, hkind⟩

/-- A value is refused for a part that can change, of which the fault names the kind. -/
theorem keyless_of_filed {v : Value} {f : Fault} (h : v.filed = .error f) :
    ∃ kind, f = .unhashable kind ∧ v.Keyless kind := by
  cases hv : v.hashKey with
  | ok k =>
    rw [filed_eq_mapError, hv] at h
    cases h
  | error part =>
    rw [filed_eq_mapError, hv] at h
    cases h
    obtain ⟨hpart, hchange⟩ := hasPart_of_hashKey hv
    exact ⟨_, rfl, part, hpart, hchange, rfl⟩

theorem isOk_filed_of_keyless {v : Value} {kind : Text} (h : v.Keyless kind) :
    v.filed.isOk = false := by
  obtain ⟨part, hpart, hchange, _⟩ := h
  rw [filed_eq_mapError]
  cases hv : v.hashKey with
  | ok k => exact absurd hv (hashKey_ne_ok_of_hasPart hpart hchange k)
  | error first => rfl

end Caret.Value

/-! ### Comparing keys -/

namespace Caret.HashKey

mutual

theorem same_refl : ∀ k : HashKey, k.same k = true
  | .nothing => rfl
  | .number a => by simp [same]
  | .text t => by simp [same]
  | .items ks => by
    rw [same]
    exact sameAll_refl ks

theorem sameAll_refl : ∀ ks : List HashKey, sameAll ks ks = true
  | [] => rfl
  | k :: ks => by
    rw [sameAll, same_refl k, sameAll_refl ks]
    rfl

end

end Caret.HashKey

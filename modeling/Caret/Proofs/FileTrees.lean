import Caret.FileSystem

/-!
# Files in a tree of names

What putting something into a tree does to the files in it. Directories are made only where nothing
is, from a directory that exists, and so every file stays as it is. The places without a name are
never files, as no file can have one of the names under which they hang in the tree. Main statement:
a log file that cannot be opened leaves every file as it was.
-/

namespace Caret

/-! ### Trees -/

namespace Node

/-- The parts of the file to which some names lead. -/
def fileAt? (n : Node) (names : List Text) : Option (List Text) :=
  match n.get? names with
  | some (.file parts) => some parts
  | _ => none

theorem get?_cons (n : Node) (name : Text) (names : List Text) :
    n.get? (name :: names) = (n.entries.lookup name).bind (·.get? names) := by
  rw [get?]
  cases n.entries.lookup name <;> rfl

theorem get?_append (n : Node) (names more : List Text) :
    n.get? (names ++ more) = (n.get? names).bind (·.get? more) := by
  induction names generalizing n with
  | nil => rfl
  | cons name names ih =>
    rw [List.cons_append, get?_cons, get?_cons]
    cases n.entries.lookup name with
    | none => rfl
    | some m => exact ih m

theorem fileAt?_cons (n : Node) (name : Text) (names : List Text) :
    n.fileAt? (name :: names) = ((n.entries.lookup name).getD empty).fileAt? names := by
  rw [fileAt?, fileAt?, get?_cons]
  cases n.entries.lookup name with
  | none => cases names <;> rfl
  | some m => rfl

theorem lookup_put (name other : Text) (m : Node) (es : List (Text × Node)) :
    ((name, m) :: es.filter fun e => e.1 != name).lookup other =
      if other = name then some m else es.lookup other := by
  by_cases h : other = name
  · simp [h]
  · rw [if_neg h, List.lookup_cons, beq_false_of_ne h]
    show (es.filter fun e => e.1 != name).lookup other = es.lookup other
    induction es with
    | nil => rfl
    | cons e es ih =>
      by_cases he : e.1 = name
      · have hne : (other == e.1) = false := beq_false_of_ne fun heq => h (heq.trans he)
        rw [List.filter_cons_of_neg (by simp [he]), ih, List.lookup_cons, hne]
      · rw [List.filter_cons_of_pos (by simp [he]), List.lookup_cons, List.lookup_cons, ih]

theorem fileAt?_put_cons (new n : Node) (name other : Text) (names more : List Text) :
    (put new n (name :: names)).fileAt? (other :: more) =
      if other = name then (put new ((n.entries.lookup name).getD empty) names).fileAt? more
      else n.fileAt? (other :: more) := by
  rw [fileAt?_cons, fileAt?_cons, put, entries, lookup_put]
  by_cases h : other = name
  · rw [if_pos h, if_pos h]
    rfl
  · rw [if_neg h, if_neg h]

theorem get?_put_self (new n : Node) (names : List Text) :
    (put new n names).get? names = some new := by
  induction names generalizing n with
  | nil => rfl
  | cons name names ih =>
    rw [get?_cons, put, entries, lookup_put, if_pos rfl]
    exact ih _

/-- A directory that is made where nothing is changes no file, if there is none on the way. -/
theorem fileAt?_put_empty {n : Node} {names : List Text}
    (hnew : (n.get? names).getD empty = empty)
    (hway : ∀ above, above <+: names → n.fileAt? above = none) (other : List Text) :
    (put empty n names).fileAt? other = n.fileAt? other := by
  induction names generalizing n other with
  | nil =>
    obtain rfl : n = empty := hnew
    rfl
  | cons name names ih =>
    cases other with
    | nil => exact (hway [] List.nil_prefix).symm
    | cons o other =>
      rw [fileAt?_put_cons]
      by_cases ho : o = name
      · subst ho
        rw [if_pos rfl, fileAt?_cons]
        apply ih
        · rw [get?_cons] at hnew
          cases hl : n.entries.lookup o with
          | none => cases names <;> rfl
          | some m =>
            rw [hl] at hnew
            exact hnew
        · intro above habove
          rw [← fileAt?_cons]
          exact hway (o :: above) (List.cons_prefix_cons.mpr ⟨rfl, habove⟩)
      · rw [if_neg ho]

/-- What is put somewhere makes no file of what does not stand below it. -/
theorem fileAt?_put_of_not_prefix {new n : Node} {names other : List Text}
    (hout : ¬ names <+: other) (h : n.fileAt? other = none) :
    (put new n names).fileAt? other = none := by
  induction names generalizing n other with
  | nil => exact absurd List.nil_prefix hout
  | cons name names ih =>
    cases other with
    | nil => rfl
    | cons o other =>
      rw [fileAt?_put_cons]
      by_cases ho : o = name
      · subst ho
        rw [if_pos rfl]
        rw [fileAt?_cons] at h
        exact ih (fun hp => hout (List.cons_prefix_cons.mpr ⟨rfl, hp⟩)) h
      · rw [if_neg ho]
        exact h

/-- Nothing else changes when a file gets other parts. -/
theorem fileAt?_put_file {n : Node} {names parts : List Text}
    (h : n.get? names = some (.file parts)) (new other : List Text) :
    (put (.file new) n names).fileAt? other =
      if other = names then some new else n.fileAt? other := by
  induction names generalizing n other with
  | nil =>
    obtain rfl : n = .file parts := Option.some.inj h
    cases other with
    | nil => rfl
    | cons o other => rfl
  | cons name names ih =>
    cases other with
    | nil =>
      rw [if_neg (List.cons_ne_nil name names).symm]
      cases n with
      | directory es => rfl
      | file parts => cases h
    | cons o other =>
      rw [fileAt?_put_cons]
      by_cases ho : o = name
      · subst ho
        obtain ⟨m, hm, hfile⟩ := Option.bind_eq_some_iff.mp ((get?_cons ..).symm.trans h)
        rw [if_pos rfl, hm, fileAt?_cons, hm]
        show (put (.file new) m names).fileAt? other = if _ then _ else m.fileAt? other
        rw [ih hfile]
        simp only [List.cons.injEq, true_and]
      · rw [if_neg ho, if_neg fun heq => ho (List.cons.inj heq).1]

/-- A directory hangs in directories. -/
theorem get?_of_prefix {n : Node} {names above : List Text} {es : List (Text × Node)}
    (h : n.get? names = some (.directory es)) (habove : above <+: names) :
    ∃ es', n.get? above = some (.directory es') := by
  obtain ⟨more, rfl⟩ := habove
  rw [get?_append] at h
  obtain ⟨m, hm, hmore⟩ := Option.bind_eq_some_iff.mp h
  cases m with
  | directory es' => exact ⟨es', hm⟩
  | file parts =>
    cases more with
    | nil => cases hmore
    | cons name more => simp [get?_cons, entries] at hmore

end Node

/-! ### Places -/

namespace Place

/-- One of the places that are there to begin with. -/
def base (rooted : Bool) (ups : Nat) : Place := ⟨rooted, ups, []⟩

/-- No name of the place is one under which a place without a name hangs in the tree, and nothing is
above the top. -/
structure Proper (p : Place) : Prop where
  names : ∀ name ∈ p.names, name ≠ Path.up ∧ name ≠ [Path.slash]
  top : p.rooted = true → p.ups = 0

theorem exists_base_of_prefix {rooted : Bool} {ups : Nat} {above : List Text}
    (h : above <+: (base rooted ups).branch) :
    ∃ rooted' ups', above = (base rooted' ups').branch := by
  cases rooted with
  | true =>
    have hcases : above = [] ∨ above = [[Path.slash]] := by
      rcases above with _ | ⟨a, above⟩
      · exact .inl rfl
      · obtain ⟨rfl, hrest⟩ := List.cons_prefix_cons.mp h
        rw [List.prefix_nil.mp hrest]
        exact .inr rfl
    rcases hcases with rfl | rfl
    · exact ⟨false, 0, rfl⟩
    · exact ⟨true, 0, rfl⟩
  | false =>
    refine ⟨false, above.length, ?_⟩
    have hreplicate : above <+: List.replicate ups Path.up := by
      simpa [branch, base] using h
    obtain ⟨more, hmore⟩ := hreplicate
    have hall : above = List.replicate above.length Path.up :=
      List.eq_replicate_iff.mpr ⟨rfl, fun name hname =>
        List.eq_of_mem_replicate (hmore ▸ List.mem_append_left more hname)⟩
    simpa [branch, base] using hall

/-- The steps up end where the names begin. -/
theorem replicate_append_inj {ups ups' : Nat} {names names' : List Text}
    (hnames : ∀ name ∈ names, name ≠ Path.up) (hnames' : ∀ name ∈ names', name ≠ Path.up)
    (h : List.replicate ups Path.up ++ names = List.replicate ups' Path.up ++ names') :
    ups = ups' ∧ names = names' := by
  induction ups generalizing ups' with
  | zero =>
    cases ups' with
    | zero => exact ⟨rfl, h⟩
    | succ ups' =>
      obtain rfl : names = Path.up :: (List.replicate ups' Path.up ++ names') := h
      exact absurd rfl (hnames _ (List.mem_cons_self ..))
  | succ ups ih =>
    cases ups' with
    | zero =>
      obtain rfl : Path.up :: (List.replicate ups Path.up ++ names) = names' := h
      exact absurd rfl (hnames' _ (List.mem_cons_self ..))
    | succ ups' =>
      obtain ⟨rfl, hrest⟩ := ih (List.cons.inj h).2
      exact ⟨rfl, hrest⟩

/-- A name of its own keeps a proper place apart from those that have none. -/
theorem Proper.not_prefix_base {p : Place} (h : p.Proper) (hn : p.names ≠ []) (rooted : Bool)
    (ups : Nat) : ¬ p.branch <+: (base rooted ups).branch := by
  intro hprefix
  obtain ⟨name, hname⟩ := List.exists_mem_of_ne_nil _ hn
  obtain ⟨hup, hslash⟩ := h.names name hname
  have hmem : name ∈ (base rooted ups).branch :=
    hprefix.subset (List.mem_append_right _ hname)
  cases rooted with
  | true => exact hslash (by simpa [branch, base] using hmem)
  | false => exact hup (List.eq_of_mem_replicate (by simpa [branch, base] using hmem))

/-- Only one proper place hangs where it does in the tree. -/
theorem Proper.branch_inj {p q : Place} (hp : p.Proper) (hq : q.Proper)
    (h : p.branch = q.branch) : p = q := by
  obtain ⟨rooted, ups, names⟩ := p
  obtain ⟨rooted', ups', names'⟩ := q
  have hne : Path.up ≠ [Path.slash] := by decide
  cases rooted with
  | true =>
    obtain rfl : ups = 0 := hp.top rfl
    cases rooted' with
    | true =>
      obtain rfl : ups' = 0 := hq.top rfl
      obtain rfl : names = names' := List.append_cancel_left h
      rfl
    | false =>
      cases ups' with
      | zero =>
        obtain rfl : [Path.slash] :: names = names' := h
        exact absurd rfl (hq.names _ (List.mem_cons_self ..)).2
      | succ ups' => exact absurd (List.cons.inj h).1.symm hne
  | false =>
    cases rooted' with
    | true =>
      obtain rfl : ups' = 0 := hq.top rfl
      cases ups with
      | zero =>
        obtain rfl : names = [Path.slash] :: names' := h
        exact absurd rfl (hp.names _ (List.mem_cons_self ..)).2
      | succ ups => exact absurd (List.cons.inj h).1 hne
    | false =>
      obtain ⟨rfl, rfl⟩ := replicate_append_inj (fun name hname => (hp.names name hname).1)
        (fun name hname => (hq.names name hname).1) h
      rfl

/-- A step stays, leads up or adds a name. -/
theorem step_cases (p : Place) (name : Text) :
    p.step name = p ∨ p.step name = p.up ∨
      name ≠ Path.up ∧ p.step name = { p with names := p.names ++ [systemForm name] } := by
  unfold step
  by_cases hstay : (name.isEmpty || name == text ".") = true
  · exact .inl (if_pos hstay)
  · rw [if_neg hstay]
    by_cases hup : name = Path.up
    · exact .inr (.inl (if_pos hup))
    · exact .inr (.inr ⟨hup, if_neg hup⟩)

theorem branch_concat (p : Place) (name : Text) :
    branch { p with names := p.names ++ [name] } = p.branch ++ [name] := by
  rw [branch, branch, List.append_assoc]

end Place

/-! ### Names from paths -/

namespace SystemName

/-- A character of several bytes is none of ASCII. -/
theorem le_least {byte : Nat} {first : FirstByte} (h : firstByte? byte = some first) :
    0x80 ≤ first.least := by
  unfold firstByte? at h
  split at h
  · cases h
  · split at h
    · cases h
      exact Nat.le_refl _
    · split at h
      · cases h
        exact Nat.le_of_ble_eq_true rfl
      · split at h
        · cases h
          exact Nat.le_of_ble_eq_true rfl
        · cases h

theorem le_val_of_spelled {t : Text} {c : CodePoint} {more : Nat}
    (h : spelled? t = some (c, more)) : 0x80 ≤ c.val := by
  cases t with
  | nil => cases h
  | cons d rest =>
    obtain ⟨_, -, h⟩ := Option.bind_eq_some_iff.mp h
    obtain ⟨first, hfirst, h⟩ := Option.bind_eq_some_iff.mp h
    obtain ⟨_, -, h⟩ := Option.bind_eq_some_iff.mp h
    obtain ⟨n, -, h⟩ := Option.bind_eq_some_iff.mp h
    obtain ⟨_, hn, h⟩ := Option.bind_eq_some_iff.mp h
    obtain ⟨_, -, heq⟩ := Option.bind_eq_some_iff.mp h
    have hrange : first.least ≤ n ∧ n < 0x110000 := by
      by_cases hr : first.least ≤ n ∧ n < 0x110000
      · exact hr
      · have hguard : (guard (first.least ≤ n ∧ n < 0x110000) : Option Unit) = none := if_neg hr
        rw [hguard] at hn
        cases hn
    obtain ⟨rfl, -⟩ := Prod.mk.inj (Option.some.inj heq)
    rw [CodePoint.val_ofNat hrange.2]
    exact Nat.le_trans (le_least hfirst) hrange.1

end SystemName

open SystemName in
/-- What is given back in ASCII was taken as it is. -/
theorem systemForm_eq_self {t : Text} (h : ∀ c ∈ systemForm t, c.val < 0x80) :
    systemForm t = t := by
  unfold systemForm at h ⊢
  induction t with
  | nil => rfl
  | cons c rest ih =>
    rw [givenBackFrom] at h ⊢
    cases hs : spelled? (c :: rest) with
    | none =>
      simp only [hs] at h
      show c :: givenBackFrom 0 rest = c :: rest
      rw [ih (List.forall_mem_cons.mp h).2]
    | some joined =>
      obtain ⟨d, more⟩ := joined
      simp only [hs] at h
      have hlt := (List.forall_mem_cons.mp h).1
      have hle := le_val_of_spelled hs
      omega

namespace Place

theorem Proper.up {p : Place} (h : p.Proper) : p.up.Proper := by
  unfold Place.up
  split
  · split
    · exact h
    · next hrooted => exact ⟨h.names, fun htop => absurd htop hrooted⟩
  · exact ⟨fun name hname => h.names name (List.dropLast_subset _ hname), h.top⟩

theorem Proper.step {p : Place} (h : p.Proper) {name : Text} (hslash : Path.slash ∉ name) :
    (p.step name).Proper := by
  rcases p.step_cases name with hstep | hstep | ⟨hup, hstep⟩
  · rw [hstep]
    exact h
  · rw [hstep]
    exact h.up
  · rw [hstep]
    refine ⟨fun other hother => ?_, h.top⟩
    rcases List.mem_append.mp hother with hother | hother
    · exact h.names other hother
    · obtain rfl := List.mem_singleton.mp hother
      constructor
      · intro heq
        have hself := systemForm_eq_self (t := name) (by rw [heq]; decide)
        exact hup (hself.symm.trans heq)
      · intro heq
        have hself := systemForm_eq_self (t := name) (by rw [heq]; decide)
        exact hslash (by rw [← hself, heq]; exact List.mem_singleton.mpr rfl)

theorem Proper.foldl_step {p : Place} (h : p.Proper) {names : List Text}
    (hslash : ∀ name ∈ names, Path.slash ∉ name) : (names.foldl Place.step p).Proper := by
  induction names generalizing p with
  | nil => exact h
  | cons name names ih =>
    obtain ⟨hname, hnames⟩ := List.forall_mem_cons.mp hslash
    exact ih (h.step hname) hnames

theorem proper_start (rooted : Bool) : (start rooted).Proper :=
  ⟨fun _ hname => absurd hname List.not_mem_nil, fun _ => rfl⟩

theorem proper_ofPath (t : Text) : (ofPath (Path.parse t)).Proper :=
  (proper_start _).foldl_step fun _ hname =>
    Text.not_mem_of_mem_pieces (List.mem_filter.mp hname).1

end Place

/-! ### File systems -/

namespace FileSystem

variable {fs : FileSystem} {p : Place}

/-- The places without a name are no files. -/
def Grounded (fs : FileSystem) : Prop :=
  ∀ rooted ups, fs.tree.fileAt? (Place.base rooted ups).branch = none

/-- The files of another file system are those of this one. -/
def SameFiles (fs other : FileSystem) : Prop :=
  ∀ names, other.tree.fileAt? names = fs.tree.fileAt? names

theorem SameFiles.refl (fs : FileSystem) : fs.SameFiles fs := fun _ => rfl

theorem SameFiles.trans {fs gs hs : FileSystem} (h : fs.SameFiles gs) (k : gs.SameFiles hs) :
    fs.SameFiles hs := fun names => (k names).trans (h names)

theorem SameFiles.grounded {other : FileSystem} (h : fs.SameFiles other) (hg : fs.Grounded) :
    other.Grounded := fun rooted ups => (h _).trans (hg rooted ups)

theorem content?_eq (fs : FileSystem) (p : Place) :
    fs.content? p = (fs.tree.fileAt? p.branch).map fun parts => parts.reverse.flatten := by
  unfold content? get? Node.fileAt?
  cases fs.tree.get? p.branch with
  | some n => cases n <;> rfl
  | none =>
    by_cases hn : p.names.isEmpty = true
    · simp [hn, Node.empty]
    · simp [hn]

theorem SameFiles.content? {other : FileSystem} (h : fs.SameFiles other) (p : Place) :
    other.content? p = fs.content? p := by rw [content?_eq, content?_eq, h]

/-- A directory hangs in the tree or is there to begin with. -/
theorem exists_of_isDirectory (h : fs.isDirectory p = true) :
    (∃ es, fs.tree.get? p.branch = some (.directory es)) ∨ p = Place.base p.rooted p.ups := by
  obtain ⟨rooted, ups, names⟩ := p
  unfold isDirectory get? at h
  cases hget : fs.tree.get? (Place.branch ⟨rooted, ups, names⟩) with
  | some n =>
    rw [hget] at h
    cases n with
    | file parts => cases h
    | directory es => exact .inl ⟨es, rfl⟩
  | none =>
    rw [hget] at h
    cases names with
    | nil => exact .inr rfl
    | cons name names => cases h

theorem isDirectory_of_get? {es : List (Text × Node)}
    (h : fs.tree.get? p.branch = some (.directory es)) : fs.isDirectory p = true := by
  rw [isDirectory, get?, h]

/-- Only the tree has files. -/
theorem tree_get?_of_file {parts : List Text} (h : fs.get? p = some (.file parts)) :
    fs.tree.get? p.branch = some (.file parts) := by
  unfold get? at h
  cases hget : fs.tree.get? p.branch with
  | some n =>
    rw [hget] at h
    exact h
  | none =>
    rw [hget] at h
    dsimp only at h
    split at h
    · cases h
    · cases h

namespace Grounded

variable (hg : fs.Grounded)
include hg

theorem isDirectory_base (rooted : Bool) (ups : Nat) :
    fs.isDirectory (Place.base rooted ups) = true := by
  have hnone := hg rooted ups
  unfold Node.fileAt? at hnone
  unfold isDirectory get?
  cases hget : fs.tree.get? (Place.base rooted ups).branch with
  | none => rfl
  | some n =>
    rw [hget] at hnone
    cases n with
    | file parts => cases hnone
    | directory es => rfl

/-- No file stands above a directory. -/
theorem fileAt?_of_prefix (hp : fs.isDirectory p = true) {above : List Text}
    (habove : above <+: p.branch) : fs.tree.fileAt? above = none := by
  rcases exists_of_isDirectory hp with ⟨es, hes⟩ | hbase
  · obtain ⟨es', hes'⟩ := Node.get?_of_prefix hes habove
    rw [Node.fileAt?, hes']
  · rw [hbase] at habove
    obtain ⟨rooted, ups, rfl⟩ := Place.exists_base_of_prefix habove
    exact hg rooted ups

theorem isDirectory_up (hp : fs.isDirectory p = true) : fs.isDirectory p.up = true := by
  unfold Place.up
  by_cases hn : p.names.isEmpty = true
  · rw [if_pos hn]
    split
    · exact hp
    · have hup := hg.isDirectory_base p.rooted (p.ups + 1)
      rwa [Place.base, ← List.isEmpty_iff.mp hn] at hup
  · rw [if_neg hn]
    rcases exists_of_isDirectory hp with ⟨es, hes⟩ | hbase
    · have habove : Place.branch { p with names := p.names.dropLast } <+: p.branch :=
        (List.prefix_append_right_inj _).mpr (List.dropLast_prefix _)
      obtain ⟨es', hes'⟩ := Node.get?_of_prefix hes habove
      exact isDirectory_of_get? hes'
    · rw [hbase] at hn
      exact absurd rfl hn

/-- A step into a directory that may have to be made changes no file. -/
theorem enter {made : FileSystem} {next : Place} {name : Text} (hp : fs.isDirectory p = true)
    (h : fs.enter p name = .ok (made, next)) :
    fs.SameFiles made ∧ made.isDirectory next = true := by
  unfold FileSystem.enter at h
  split at h
  · cases h
  · dsimp only at h
    split at h
    · next hnone =>
      cases h
      have hfree : fs.tree.get? (p.step name).branch = none := by
        unfold get? at hnone
        cases hget : fs.tree.get? (p.step name).branch with
        | none => rfl
        | some n =>
          rw [hget] at hnone
          cases hnone
      have hnot : fs.isDirectory (p.step name) = false := by rw [isDirectory, hnone]
      constructor
      · refine Node.fileAt?_put_empty (by rw [hfree]; rfl) fun above habove => ?_
        rcases p.step_cases name with hstep | hstep | ⟨-, hstep⟩
        · rw [hstep, hp] at hnot
          cases hnot
        · rw [hstep, hg.isDirectory_up hp] at hnot
          cases hnot
        · -- a new name: what is above it is the new place or above the directory
          rw [hstep, Place.branch_concat] at habove
          rcases List.prefix_concat_iff.mp habove with heq | habove
          · rw [heq, ← Place.branch_concat, ← hstep, Node.fileAt?, hfree]
          · exact hg.fileAt?_of_prefix hp habove
      · exact isDirectory_of_get? (Node.get?_put_self _ _ _)
    · next hdir =>
      cases h
      exact ⟨.refl fs, by rw [isDirectory, hdir]⟩
    · cases h

end Grounded

/-- Entering directories changes no file, also when it fails on the way. -/
theorem Grounded.enterAll (hg : fs.Grounded) (hp : fs.isDirectory p = true) (walked : Text)
    (names : List Text) : fs.SameFiles (fs.enterAll p walked names).1 := by
  induction names generalizing fs p walked with
  | nil => exact .refl fs
  | cons name names ih =>
    rw [FileSystem.enterAll]
    cases checkPath (walked ++ name) with
    | error f => exact .refl fs
    | ok _ =>
      cases henter : fs.enter p name with
      | error f => exact .refl fs
      | ok entered =>
        obtain ⟨made, next⟩ := entered
        obtain ⟨hsame, hnext⟩ := hg.enter hp henter
        exact hsame.trans (ih (hsame.grounded hg) hnext _)

theorem Grounded.makeAbove (hg : fs.Grounded) (t : Text) : fs.SameFiles (fs.makeAbove t).1 :=
  hg.enterAll (hg.isDirectory_base _ 0) _ _

/-- **A file that cannot be opened leaves every file as it was.** -/
theorem Grounded.openFile_error (hg : fs.Grounded) {made : FileSystem} {t : Text} {f : SystemFault}
    (h : fs.openFile t = (made, .error f)) : fs.SameFiles made := by
  unfold FileSystem.openFile at h
  dsimp only at h
  split at h
  · cases h
    exact .refl fs
  · have habove := hg.makeAbove (Path.parse t).display
    split at h
    · next hmade =>
      cases h
      rwa [hmade] at habove
    · next hmade =>
      rw [hmade] at habove
      split at h
      · cases h
        exact habove
      · cases h

/-! ### Putting files -/

/-- The file is opened where the steps of its path lead when none is looked up, which is at no
directory. -/
theorem openFile_ok {opened : FileSystem} {t : Text} {p : Place}
    (h : fs.openFile t = (opened, .ok p)) :
    p = Place.ofPath (Path.parse t) ∧ ∃ made, (fs.makeAbove (Path.parse t).display).1 = made ∧
      made.isDirectory p = false ∧
      opened = if made.isFile p then made else made.put p (.file []) := by
  unfold openFile at h
  dsimp only at h
  split at h
  · cases h
  · split at h
    · cases h
    · next made hmade =>
      split at h
      · cases h
      · next hopen =>
        cases h
        refine ⟨rfl, made, by rw [hmade], ?_, rfl⟩
        cases hdir : made.isDirectory (Place.ofPath (Path.parse t)) with
        | false => rfl
        | true =>
          obtain ⟨_, -, hfree⟩ := bind_eq_ok_iff.mp hopen
          rw [hdir, Bool.true_or, if_pos rfl] at hfree
          cases hfree

theorem proper_of_walk {names : List Text} (hslash : ∀ name ∈ names, Path.slash ∉ name)
    {q : Place} (hp : p.Proper) (h : fs.walk p names = some q) : q.Proper := by
  induction names generalizing p with
  | nil =>
    cases h
    exact hp
  | cons name names ih =>
    obtain ⟨hname, hnames⟩ := List.forall_mem_cons.mp hslash
    rw [walk] at h
    split at h
    · exact ih hnames (hp.step hname) h
    · cases h

theorem resolveFile_ok {t : Text} {p : Place} (h : fs.resolveFile t = .ok p) :
    p.Proper ∧ fs.isDirectory p = false := by
  obtain ⟨q, hq, hfree⟩ := bind_eq_ok_iff.mp h
  obtain ⟨_, -, hwalk⟩ := bind_eq_ok_iff.mp hq
  split at hwalk
  · next q' hq' =>
    cases hwalk
    split at hfree
    · cases hfree
    · next hdir =>
      cases hfree
      refine ⟨proper_of_walk ?_ (Place.proper_start _) hq', Bool.eq_false_iff.mpr hdir⟩
      exact fun name hname => Text.not_mem_of_mem_pieces hname
  · cases hwalk

/-- Adding to a file changes no other one. -/
theorem content?_append_of_ne {q : Place} (hp : p.Proper) (hq : q.Proper) (hne : q ≠ p) (t : Text) :
    (fs.append p t).content? q = fs.content? q := by
  unfold append
  split
  · next parts hfile =>
    rw [content?_eq, content?_eq, put, Node.fileAt?_put_file (tree_get?_of_file hfile),
      if_neg fun heq => hne (hq.branch_inj hp heq)]
  · rfl

namespace Grounded

variable (hg : fs.Grounded)
include hg

/-- A file is put where no directory is, and so never at a place without a name. -/
theorem put (hp : p.Proper) (hdir : fs.isDirectory p = false) (n : Node) :
    (fs.put p n).Grounded := by
  have hn : p.names ≠ [] := by
    intro hn
    have hbase := hg.isDirectory_base p.rooted p.ups
    rw [Place.base, ← hn, hdir] at hbase
    cases hbase
  intro rooted ups
  exact Node.fileAt?_put_of_not_prefix (hp.not_prefix_base hn rooted ups) (hg rooted ups)

theorem openFile (t : Text) : (fs.openFile t).1.Grounded := by
  have hmade := (hg.makeAbove (Path.parse t).display).grounded hg
  cases hopen : fs.openFile t with
  | mk opened result =>
    cases result with
    | error f => exact (hg.openFile_error hopen).grounded hg
    | ok p =>
      obtain ⟨rfl, made, rfl, hdir, rfl⟩ := openFile_ok hopen
      dsimp only
      split
      · exact hmade
      · exact hmade.put (Place.proper_ofPath t) hdir _

theorem write (path content : Text) : (fs.write path content).1.Grounded := by
  have habove := (hg.makeAbove path).grounded hg
  unfold FileSystem.write
  split
  · next hmade => rwa [hmade] at habove
  · next made hmade =>
    rw [hmade] at habove
    split
    · exact habove
    · next p hp =>
      obtain ⟨hproper, hdir⟩ := resolveFile_ok hp
      split
      · exact habove.put hproper hdir _
      · exact habove.put hproper hdir _

theorem append (p : Place) (t : Text) : (fs.append p t).Grounded := by
  unfold FileSystem.append
  split
  · next parts hfile =>
    intro rooted ups
    refine Node.fileAt?_put_of_not_prefix (fun hprefix => ?_) (hg rooted ups)
    obtain ⟨rooted', ups', hbranch⟩ := Place.exists_base_of_prefix hprefix
    have hnone := hg rooted' ups'
    rw [← hbranch, Node.fileAt?, tree_get?_of_file hfile] at hnone
    cases hnone
  · exact hg

end Grounded

end FileSystem

end Caret

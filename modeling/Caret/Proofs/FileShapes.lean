import Caret.Log.Handler
import Caret.Proofs.FileTrees

/-!
# Shapes of file systems

Two file systems have the same shape if the same files and directories stand in them, whatever the
files hold. Main statement: where paths lead, what can be made there and what is refused depends on
the shape alone, and what is added to a file that stands there does not change the shape.
-/

namespace Caret

/-! ### Trees -/

namespace Node

def isFile : Node → Bool
  | .file _ => true
  | .directory _ => false

/-- The same names lead to files and to directories. -/
def SameShape (n m : Node) : Prop :=
  ∀ names, (n.get? names).map isFile = (m.get? names).map isFile

theorem SameShape.refl (n : Node) : SameShape n n := fun _ => rfl

section Same

variable {n m : Node} (h : SameShape n m)
include h

theorem SameShape.symm : SameShape m n := fun names => (h names).symm

theorem SameShape.trans {k : Node} (hk : SameShape m k) : SameShape n k :=
  fun names => (h names).trans (hk names)

/-- What stands under a name of one stands under it in the other. -/
theorem SameShape.lookup (name : Text) :
    n.entries.lookup name = none ∧ m.entries.lookup name = none ∨
      ∃ below below', n.entries.lookup name = some below ∧ m.entries.lookup name = some below' ∧
        SameShape below below' := by
  have hname := h [name]
  rw [get?_cons, get?_cons] at hname
  cases hn : n.entries.lookup name with
  | none =>
    cases hm : m.entries.lookup name with
    | none => exact .inl ⟨rfl, rfl⟩
    | some below' =>
      rw [hn, hm] at hname
      cases hname
  | some below =>
    cases hm : m.entries.lookup name with
    | none =>
      rw [hn, hm] at hname
      cases hname
    | some below' =>
      refine .inr ⟨below, below', rfl, rfl, fun names => ?_⟩
      have hnames := h (name :: names)
      rwa [get?_cons, get?_cons, hn, hm] at hnames

theorem SameShape.getD_lookup (name : Text) :
    SameShape ((n.entries.lookup name).getD empty) ((m.entries.lookup name).getD empty) := by
  rcases h.lookup name with ⟨hn, hm⟩ | ⟨below, below', hn, hm, hbelow⟩
  · rw [hn, hm]
    exact .refl _
  · rw [hn, hm]
    exact hbelow

end Same

theorem isFile_put_cons (new n : Node) (name other : Text) (names more : List Text) :
    ((put new n (name :: names)).get? (other :: more)).map isFile =
      if other = name then
        ((put new ((n.entries.lookup name).getD empty) names).get? more).map isFile
      else (n.get? (other :: more)).map isFile := by
  rw [get?_cons, put, entries, lookup_put]
  by_cases hother : other = name
  · rw [if_pos hother, if_pos hother]
    rfl
  · rw [if_neg hother, if_neg hother, get?_cons]

theorem SameShape.put {n m new new' : Node} (h : SameShape n m) (hnew : SameShape new new')
    (names : List Text) : SameShape (put new n names) (put new' m names) := by
  induction names generalizing n m with
  | nil => exact hnew
  | cons name names ih =>
    intro others
    cases others with
    | nil => rfl
    | cons other more =>
      rw [isFile_put_cons, isFile_put_cons, h (other :: more)]
      split
      · exact ih (h.getD_lookup name) more
      · rfl

/-- A file may be put in place of a file. -/
theorem sameShape_put_file {n : Node} {names parts : List Text}
    (h : n.get? names = some (.file parts)) (new : List Text) :
    SameShape n (put (.file new) n names) := by
  induction names generalizing n with
  | nil =>
    obtain rfl : n = .file parts := Option.some.inj h
    intro others
    cases others with
    | nil => rfl
    | cons other more => rfl
  | cons name names ih =>
    rw [get?_cons] at h
    cases hlookup : n.entries.lookup name with
    | none =>
      rw [hlookup] at h
      cases h
    | some below =>
      rw [hlookup] at h
      intro others
      cases others with
      | nil =>
        cases n with
        | file parts => cases hlookup
        | directory entries => rfl
      | cons other more =>
        rw [isFile_put_cons]
        by_cases hother : other = name
        · rw [if_pos hother, hother, get?_cons, hlookup]
          exact ih h more
        · rw [if_neg hother]

end Node

/-! ### File systems -/

namespace FileSystem

def SameShape (fs gs : FileSystem) : Prop := fs.tree.SameShape gs.tree

theorem SameShape.refl (fs : FileSystem) : fs.SameShape fs := Node.SameShape.refl fs.tree

section Same

variable {fs gs : FileSystem} (h : fs.SameShape gs)
include h

theorem SameShape.isFile_get? (p : Place) :
    (fs.get? p).map Node.isFile = (gs.get? p).map Node.isFile := by
  have hbranch := h p.branch
  unfold get?
  cases hf : fs.tree.get? p.branch with
  | none =>
    cases hg : gs.tree.get? p.branch with
    | none => rfl
    | some m =>
      rw [hf, hg] at hbranch
      cases hbranch
  | some n =>
    cases hg : gs.tree.get? p.branch with
    | none =>
      rw [hf, hg] at hbranch
      cases hbranch
    | some m =>
      rw [hf, hg] at hbranch
      exact hbranch

/-- In both there is nothing at a place, a directory or a file. -/
theorem SameShape.get?_cases (p : Place) :
    fs.get? p = none ∧ gs.get? p = none ∨
      (∃ es es', fs.get? p = some (.directory es) ∧ gs.get? p = some (.directory es')) ∨
        ∃ parts parts', fs.get? p = some (.file parts) ∧ gs.get? p = some (.file parts') := by
  have hkind := h.isFile_get? p
  cases hf : fs.get? p with
  | none =>
    cases hg : gs.get? p with
    | none => exact .inl ⟨rfl, rfl⟩
    | some m =>
      rw [hf, hg] at hkind
      cases hkind
  | some n =>
    cases hg : gs.get? p with
    | none =>
      rw [hf, hg] at hkind
      cases hkind
    | some m =>
      rw [hf, hg] at hkind
      cases n with
      | directory es =>
        cases m with
        | directory es' => exact .inr (.inl ⟨es, es', rfl, rfl⟩)
        | file parts' => cases hkind
      | file parts =>
        cases m with
        | directory es' => cases hkind
        | file parts' => exact .inr (.inr ⟨parts, parts', rfl, rfl⟩)

theorem SameShape.isFile (p : Place) : fs.isFile p = gs.isFile p := by
  unfold FileSystem.isFile
  rcases h.get?_cases p with ⟨hf, hg⟩ | ⟨es, es', hf, hg⟩ | ⟨parts, parts', hf, hg⟩
  · rw [hf, hg]
  · rw [hf, hg]
  · rw [hf, hg]

theorem SameShape.isDirectory (p : Place) : fs.isDirectory p = gs.isDirectory p := by
  unfold FileSystem.isDirectory
  rcases h.get?_cases p with ⟨hf, hg⟩ | ⟨es, es', hf, hg⟩ | ⟨parts, parts', hf, hg⟩
  · rw [hf, hg]
  · rw [hf, hg]
  · rw [hf, hg]

theorem SameShape.put (p : Place) (n : Node) : (fs.put p n).SameShape (gs.put p n) :=
  Node.SameShape.put h (.refl n) p.branch

theorem SameShape.walk (p : Place) (steps : List Text) : fs.walk p steps = gs.walk p steps := by
  induction steps generalizing p with
  | nil => rfl
  | cons name rest ih => rw [FileSystem.walk, FileSystem.walk, h.isDirectory, ih]

theorem SameShape.resolve (t : Text) : fs.resolve t = gs.resolve t := by
  rw [FileSystem.resolve, FileSystem.resolve, h.walk]

theorem SameShape.resolveFile (t : Text) : fs.resolveFile t = gs.resolveFile t := by
  unfold FileSystem.resolveFile
  rw [h.resolve]
  cases gs.resolve t with
  | error f => rfl
  | ok p =>
    show (if fs.isDirectory p then _ else _) = if gs.isDirectory p then _ else _
    rw [h.isDirectory]

theorem SameShape.checkOpen (p : Place) : fs.checkOpen p = gs.checkOpen p := by
  rw [FileSystem.checkOpen, FileSystem.checkOpen, h.isDirectory]

end Same

/-- The same fault, or the same answer and file systems of one shape. -/
def Match {α β : Type} (a : FileSystem × Except α β) (b : FileSystem × Except α β) : Prop :=
  a.1.SameShape b.1 ∧ a.2 = b.2

theorem SameShape.enter {fs gs : FileSystem} (h : fs.SameShape gs) (p : Place) (name : Text) :
    (∃ f, fs.enter p name = .error f ∧ gs.enter p name = .error f) ∨
      ∃ made made' next, fs.enter p name = .ok (made, next) ∧ gs.enter p name = .ok (made', next) ∧
        made.SameShape made' := by
  unfold FileSystem.enter
  by_cases hlong : Path.nameLimit ≤ name.utf8Size
  · rw [if_pos hlong, if_pos hlong]
    exact .inl ⟨_, rfl, rfl⟩
  · rw [if_neg hlong, if_neg hlong]
    rcases h.get?_cases (p.step name) with ⟨hf, hg⟩ | ⟨es, es', hf, hg⟩ | ⟨parts, parts', hf, hg⟩
    · rw [hf, hg]
      exact .inr ⟨_, _, _, rfl, rfl, h.put _ _⟩
    · rw [hf, hg]
      exact .inr ⟨_, _, _, rfl, rfl, h⟩
    · rw [hf, hg]
      exact .inl ⟨_, rfl, rfl⟩

theorem SameShape.enterAll {fs gs : FileSystem} (h : fs.SameShape gs) (p : Place) (walked : Text)
    (steps : List Text) : Match (fs.enterAll p walked steps) (gs.enterAll p walked steps) := by
  induction steps generalizing fs gs p walked with
  | nil => exact ⟨h, rfl⟩
  | cons name rest ih =>
    unfold FileSystem.enterAll
    cases checkPath (walked ++ name) with
    | error f => exact ⟨h, rfl⟩
    | ok u =>
      dsimp only
      rcases h.enter p name with ⟨f, hf, hg⟩ | ⟨made, made', next, hf, hg, hmade⟩
      · rw [hf, hg]
        exact ⟨h, rfl⟩
      · rw [hf, hg]
        exact ih hmade next _

section Making

variable {fs gs : FileSystem} (h : fs.SameShape gs)
include h

theorem SameShape.makeAbove (t : Text) : Match (fs.makeAbove t) (gs.makeAbove t) :=
  h.enterAll _ _ _

theorem SameShape.write (path content : Text) :
    Match (fs.write path content) (gs.write path content) := by
  obtain ⟨hmade, hresult⟩ := h.makeAbove path
  unfold FileSystem.write
  cases hf : fs.makeAbove path with
  | mk made result =>
    cases hg : gs.makeAbove path with
    | mk made' result' =>
      rw [hf, hg] at hmade hresult
      obtain rfl : result = result' := hresult
      cases result with
      | error f => exact ⟨hmade, rfl⟩
      | ok u =>
        dsimp only at hmade ⊢
        rw [hmade.resolveFile]
        cases made'.resolveFile path with
        | error f => exact ⟨hmade, rfl⟩
        | ok p =>
          dsimp only
          cases checkEncodable false content with
          | error f => exact ⟨hmade.put _ _, rfl⟩
          | ok u => exact ⟨hmade.put _ _, rfl⟩

theorem SameShape.openFile (t : Text) : Match (fs.openFile t) (gs.openFile t) := by
  unfold FileSystem.openFile
  dsimp only
  cases checkPath (Path.parse t).parent.display with
  | error f => exact ⟨h, rfl⟩
  | ok u =>
    dsimp only
    obtain ⟨hmade, hresult⟩ := h.makeAbove (Path.parse t).display
    cases hf : fs.makeAbove (Path.parse t).display with
    | mk made result =>
      cases hg : gs.makeAbove (Path.parse t).display with
      | mk made' result' =>
        rw [hf, hg] at hmade hresult
        obtain rfl : result = result' := hresult
        cases result with
        | error f => exact ⟨hmade, rfl⟩
        | ok u =>
          dsimp only at hmade ⊢
          rw [hmade.checkOpen]
          cases made'.checkOpen (Place.ofPath (Path.parse t)) with
          | error f => exact ⟨hmade, rfl⟩
          | ok u =>
            refine ⟨?_, rfl⟩
            dsimp only
            rw [hmade.isFile]
            split
            · exact hmade
            · exact hmade.put _ _

end Making

/-- What is added to a file does not change the shape. -/
theorem sameShape_append (fs : FileSystem) (p : Place) (t : Text) :
    fs.SameShape (fs.append p t) := by
  unfold append
  split
  · next parts hfile => exact Node.sameShape_put_file (tree_get?_of_file hfile) (t :: parts)
  · exact .refl fs

theorem sameShape_applyTo (o : Output) (fs : FileSystem) : fs.SameShape (o.applyTo fs) := by
  have hfold : ∀ (es : List (Place × Text)) (gs : FileSystem), fs.SameShape gs →
      fs.SameShape (es.foldl (fun fs e => fs.append e.1 e.2) gs) := by
    intro es
    induction es with
    | nil => exact fun gs h => h
    | cons e es ih => exact fun gs h => ih _ (Node.SameShape.trans h (sameShape_append gs e.1 e.2))
  exact hfold o.files fs (.refl fs)

end FileSystem

end Caret

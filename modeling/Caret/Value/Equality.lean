import Caret.Value.Basic

/-!
# Equality of values

Numbers are equal by amount, the truth values counting as one and zero. Lists equal lists and tuples
equal tuples element by element, and a dictionary equals one that holds the same entries in any
order.
-/

namespace Caret

/-- What a number amounts to: a whole number that is halved some times, and no more than needed. -/
inductive Amount where
  | finite (whole : Int) (halvings : Nat)
  | infinite (negative : Bool)
deriving DecidableEq

namespace Amount

def ofInt (n : Int) : Amount := .finite n 0

/-- A whole number halved some times. -/
def halved (n : Int) : Nat → Amount
  | 0 => .finite n 0
  | k + 1 => if n % 2 = 0 then halved (n / 2) k else .finite n (k + 1)

def ofDouble : Double → Amount
  | .finite negative mantissa exponent =>
    let n : Int := if negative then -mantissa else mantissa
    halved (n * Nat.pow 2 exponent.toNat) (-exponent).toNat
  | .infinite negative => .infinite negative

end Amount

namespace Value

def amount? : Value → Option Amount
  | .bool b => some (.ofInt b.toNat)
  | .int n => some (.ofInt n)
  | .double x => some (.ofDouble x)
  | _ => none

mutual

def same : Value → Value → Bool
  | .null, .null => true
  | .text s, .text t => s == t
  | .list xs, .list ys => sameItems xs ys
  | .tuple xs, .tuple ys => sameItems xs ys
  | .dictionary es, .dictionary fs => entriesWithin es fs && fs.all fun e => hasEntry es e.1 e.2
  | .eot, .eot => true
  | .location a, .location b => a == b
  | .failureKind a, .failureKind b => a == b
  | .failure a s, .failure b t => a == b && s == t
  | v, w => v.amount?.isSome && v.amount? == w.amount?

def sameItems : List Value → List Value → Bool
  | [], [] => true
  | x :: xs, y :: ys => x.same y && sameItems xs ys
  | _, _ => false

/-- Every entry on the left has an equal one on the right. -/
def entriesWithin : List (Value × Value) → List (Value × Value) → Bool
  | [], _ => true
  | (k, v) :: es, fs => (fs.any fun e => k.same e.1 && v.same e.2) && entriesWithin es fs

def hasEntry : List (Value × Value) → Value → Value → Bool
  | [], _, _ => false
  | (k, v) :: es, x, y => (k.same x && v.same y) || hasEntry es x y

end

theorem same_text (s t : Text) : (Value.text s).same (.text t) = (s == t) := by simp [same]

/-- Only a text is the same as a text. -/
theorem same_text_iff {v : Value} {t : Text} : v.same (.text t) = true ↔ v = .text t := by
  cases v <;> simp [same, amount?]

/-! ### Every value equals itself -/

theorem hasEntry_of_mem {es : List (Value × Value)} {e : Value × Value} (h : e ∈ es)
    (hkey : e.1.same e.1 = true) (hvalue : e.2.same e.2 = true) : hasEntry es e.1 e.2 = true := by
  induction es with
  | nil => exact absurd h List.not_mem_nil
  | cons d es ih =>
    rw [hasEntry]
    rcases List.mem_cons.mp h with rfl | h
    · rw [hkey, hvalue]
      rfl
    · rw [ih h, Bool.or_true]

theorem entriesWithin_of_subset {es fs : List (Value × Value)} (h : ∀ e ∈ es, e ∈ fs)
    (hsame : ∀ e ∈ es, e.1.same e.1 = true ∧ e.2.same e.2 = true) :
    entriesWithin es fs = true := by
  induction es with
  | nil => rw [entriesWithin]
  | cons e es ih =>
    obtain ⟨he, hes⟩ := List.forall_mem_cons.mp h
    obtain ⟨⟨hkey, hvalue⟩, hrest⟩ := List.forall_mem_cons.mp hsame
    have hfound : (fs.any fun d => e.1.same d.1 && e.2.same d.2) = true :=
      List.any_eq_true.mpr ⟨e, he, by rw [hkey, hvalue]; rfl⟩
    rw [entriesWithin, hfound, ih hes hrest]
    rfl

mutual

theorem same_refl : ∀ v : Value, v.same v = true
  | .null => by simp [same]
  | .bool b => by simp [same, amount?]
  | .int n => by simp [same, amount?]
  | .double x => by simp [same, amount?]
  | .text t => by simp [same]
  | .list xs => by
    rw [same]
    exact sameItems_refl xs
  | .tuple xs => by
    rw [same]
    exact sameItems_refl xs
  | .dictionary es => by
    have hsame := same_refl_entries es
    rw [same, entriesWithin_of_subset (fun _ he => he) hsame, Bool.true_and, List.all_eq_true]
    exact fun e he => hasEntry_of_mem he (hsame e he).1 (hsame e he).2
  | .eot => by simp [same]
  | .location l => by simp [same]
  | .failureKind name => by simp [same]
  | .failure kind message => by simp [same]

theorem sameItems_refl : ∀ xs : List Value, sameItems xs xs = true
  | [] => by rw [sameItems]
  | x :: xs => by
    rw [sameItems, same_refl x, sameItems_refl xs]
    rfl

theorem same_refl_entries : ∀ es : List (Value × Value),
    ∀ e ∈ es, e.1.same e.1 = true ∧ e.2.same e.2 = true
  | [] => fun _ he => absurd he List.not_mem_nil
  | (k, v) :: es => List.forall_mem_cons.mpr ⟨⟨same_refl k, same_refl v⟩, same_refl_entries es⟩

end

/-! ### Searching -/

def isIn (v : Value) (xs : List Value) : Bool := xs.any (·.same v)

def countIn (v : Value) (xs : List Value) : Nat := xs.countP (·.same v)

end Value

end Caret

import Caret.Proofs.JsonTexts

/-!
# What is written is read back

The reader takes apart what `render` puts together: the digits of a number up to what cannot belong
to it, the items of an array and the members of an object one after the other. Main statement: a JSON
value without doubles is read back from its written form, with the surrogates of its texts joined, and
this form is one line of printable ASCII.
-/

namespace Caret

namespace Text

/-! ### Numerals -/

theorem isDigit_digit (n : Nat) : (digit n).isDigit = true := by
  have hval : (digit n).val = 48 + n % 10 := rfl
  have hlow : '0'.toNat = 48 := rfl
  have hhigh : '9'.toNat = 57 := rfl
  rw [CodePoint.isDigit, CodePoint.isBetween, hval, hlow, hhigh]
  simp only [Bool.and_eq_true, decide_eq_true_eq]
  omega

theorem isDigit_of_mem_ofNat {n : Nat} {c : CodePoint} (h : c ∈ ofNat n) : c.isDigit = true := by
  induction n using Nat.strongRecOn with
  | ind n ih =>
    rw [ofNat_eq] at h
    by_cases hn : n < 10
    · rw [if_pos hn, List.mem_singleton] at h
      rw [h]
      exact isDigit_digit n
    · rw [if_neg hn, List.mem_append, List.mem_singleton] at h
      rcases h with h | h
      · exact ih (n / 10) (by omega) h
      · rw [h]
        exact isDigit_digit n

theorem ofNat_ne_nil (n : Nat) : ofNat n ≠ [] := by
  rw [ofNat_eq]
  split
  · simp
  · simp

theorem toNat_append_digit (t : Text) (n : Nat) :
    toNat (t ++ [digit n]) = 10 * toNat t + n % 10 := by
  have hval : (digit n).val = 48 + n % 10 := rfl
  rw [toNat, List.foldl_append, List.foldl_cons, List.foldl_nil, hval, Nat.add_sub_cancel_left]
  rfl

/-- A numeral names its number. -/
theorem toNat_ofNat (n : Nat) : toNat (ofNat n) = n := by
  induction n using Nat.strongRecOn with
  | ind n ih =>
    rw [ofNat_eq]
    by_cases hn : n < 10
    · rw [if_pos hn, ← List.nil_append [digit n], toNat_append_digit]
      show 10 * 0 + n % 10 = n
      omega
    · rw [if_neg hn, toNat_append_digit, ih (n / 10) (by omega)]
      omega

end Text

namespace Json

open CodePoint (backslash doubleQuote leftBrace rightBrace)

/-- What stands behind a value: nothing, a comma or a closing mark. -/
def Closed (rest : Text) : Prop :=
  ∀ c ∈ rest.head?, c = comma ∨ c = closeBracket ∨ c = rightBrace

theorem closed_nil : Closed [] := nofun

theorem closed_cons {c : CodePoint} (h : c = comma ∨ c = closeBracket ∨ c = rightBrace)
    (rest : Text) : Closed (c :: rest) := by
  intro d hd
  obtain rfl : c = d := Option.some.inj hd
  exact h

section Numbers

variable {rest : Text} (h : Closed rest)
include h

theorem Closed.readDigits? (n : Nat) :
    readDigits? (Text.ofNat n ++ rest) = some (Text.ofNat n, rest) := by
  have hstop : rest.takeWhile CodePoint.isDigit = [] ∧ rest.dropWhile CodePoint.isDigit = rest := by
    cases rest with
    | nil => exact ⟨rfl, rfl⟩
    | cons c rest =>
      have hc : c.isDigit = false := by
        rcases h c rfl with rfl | rfl | rfl
        · decide
        · decide
        · decide
      simp [hc]
  have hdigits : ∀ c ∈ Text.ofNat n, c.isDigit = true := fun _ => Text.isDigit_of_mem_ofNat
  have htake : (Text.ofNat n ++ rest).takeWhile CodePoint.isDigit = Text.ofNat n := by
    rw [List.takeWhile_append_of_pos hdigits, hstop.1, List.append_nil]
  have hdrop : (Text.ofNat n ++ rest).dropWhile CodePoint.isDigit = rest := by
    rw [List.dropWhile_append_of_pos hdigits, hstop.2]
  rw [Json.readDigits?, htake, hdrop]
  cases hn : Text.ofNat n with
  | nil => exact absurd hn (Text.ofNat_ne_nil n)
  | cons d ds => rfl

theorem Closed.readPlaces? : readPlaces? rest = some ([], rest) := by
  cases rest with
  | nil => rfl
  | cons c rest =>
    rcases h c rfl with rfl | rfl | rfl
    · rfl
    · rfl
    · rfl

theorem Closed.readPower? : readPower? rest = some (0, rest) := by
  cases rest with
  | nil => rfl
  | cons c rest =>
    rcases h c rfl with rfl | rfl | rfl
    · rfl
    · rfl
    · rfl

theorem Closed.readNumber? (negative : Bool) (n : Nat) :
    readNumber? negative (Text.ofNat n ++ rest) = some (.int (signed negative n), rest) := by
  rw [Json.readNumber?, h.readDigits?]
  simp only [Option.bind_eq_bind, Option.bind_some, h.readPlaces?, h.readPower?, Nat.lt_irrefl,
    if_false, Text.toNat_ofNat]
  rfl

end Numbers

/-! ### Marks -/

theorem skipBlanks_cons {c : CodePoint} (h : c.isBlank = false) (rest : Text) :
    skipBlanks (c :: rest) = c :: rest := by
  rw [skipBlanks, List.dropWhile_cons, h]
  rfl

theorem Closed.skipBlanks {rest : Text} (h : Closed rest) : skipBlanks rest = rest := by
  cases rest with
  | nil => rfl
  | cons c rest =>
    rcases h c rfl with rfl | rfl | rfl
    · exact skipBlanks_cons (by decide) rest
    · exact skipBlanks_cons (by decide) rest
    · exact skipBlanks_cons (by decide) rest

theorem readMark?_self {mark : CodePoint} (h : mark.isBlank = false) (rest : Text) :
    readMark? mark (mark :: rest) = some (skipBlanks rest) := by
  rw [readMark?, skipBlanks_cons h]
  exact if_pos rfl

theorem readMark?_other {c mark : CodePoint} (h : c.isBlank = false) (hne : c ≠ mark)
    (rest : Text) : readMark? mark (c :: rest) = none := by
  rw [readMark?, skipBlanks_cons h]
  exact if_neg hne

/-! ### Values -/

mutual

def holdsDouble : Json → Bool
  | .null => false
  | .bool _ => false
  | .int _ => false
  | .double _ => true
  | .text _ => false
  | .array js => itemsHoldDouble js
  | .object ms => membersHoldDouble ms

def itemsHoldDouble : List Json → Bool
  | [] => false
  | j :: js => j.holdsDouble || itemsHoldDouble js

def membersHoldDouble : List (Text × Json) → Bool
  | [] => false
  | (_, j) :: ms => j.holdsDouble || membersHoldDouble ms

end

mutual

/-- The value as it is read back: surrogates that stand in a row are joined. -/
def joined : Json → Json
  | .null => .null
  | .bool b => .bool b
  | .int n => .int n
  | .double x => .double x
  | .text t => .text (joinPairs t)
  | .array js => .array (joinedItems js)
  | .object ms => .object (joinedMembers ms)

def joinedItems : List Json → List Json
  | [] => []
  | j :: js => j.joined :: joinedItems js

def joinedMembers : List (Text × Json) → List (Text × Json)
  | [] => []
  | (name, j) :: ms => (joinPairs name, j.joined) :: joinedMembers ms

end

/-- The first mark of a value, which is neither a blank nor a mark that closes. -/
def Opening (t : Text) : Prop :=
  ∃ c rest, t = c :: rest ∧ c.isBlank = false ∧ c ≠ closeBracket ∧ c ≠ rightBrace

/-- A numeral begins with a digit, and so with no other mark. -/
theorem exists_digit (n : Nat) :
    ∃ c rest, Text.ofNat n = c :: rest ∧ ∀ d : CodePoint, d.isDigit = false → c ≠ d := by
  obtain ⟨c, rest, hn⟩ := List.exists_cons_of_ne_nil (Text.ofNat_ne_nil n)
  refine ⟨c, rest, hn, ?_⟩
  rintro d hd rfl
  have hdigit : c.isDigit = true := Text.isDigit_of_mem_ofNat (hn ▸ List.mem_cons_self)
  rw [hd] at hdigit
  cases hdigit

theorem opening_ofInt (n : Int) : Opening (Text.ofInt n) := by
  cases n with
  | ofNat n =>
    obtain ⟨c, rest, hn, hne⟩ := exists_digit n
    have hblank : c.isBlank = false := by
      simp [CodePoint.isBlank, hne (CodePoint.ofChar ' ') (by decide),
        hne (CodePoint.ofChar '\t') (by decide), hne (CodePoint.ofChar '\r') (by decide),
        hne (CodePoint.ofChar '\n') (by decide)]
    exact ⟨c, rest, hn, hblank, hne _ (by decide), hne _ (by decide)⟩
  | negSucc n => exact ⟨_, _, rfl, by decide, by decide, by decide⟩

theorem opening_render {j : Json} (h : j.holdsDouble = false) : Opening j.render := by
  cases j with
  | null => exact ⟨_, _, rfl, by decide, by decide, by decide⟩
  | bool b => cases b <;> exact ⟨_, _, rfl, by decide, by decide, by decide⟩
  | int n => exact opening_ofInt n
  | double x => cases h
  | text t => exact ⟨_, _, rfl, by decide, by decide, by decide⟩
  | array js => exact ⟨_, _, rfl, by decide, by decide, by decide⟩
  | object ms => exact ⟨_, _, rfl, by decide, by decide, by decide⟩

theorem Closed.readAmount? {rest : Text} (h : Closed rest) (negative : Bool) (n : Nat) :
    readAmount? negative (Text.ofNat n ++ rest) = some (.int (signed negative n), rest) := by
  obtain ⟨c, digits, hn, hne⟩ := exists_digit n
  have hword : readWord? "Infinity" (.double (.infinite negative)) (Text.ofNat n ++ rest) =
      none := by
    have hletter : CodePoint.ofChar 'I' ≠ c := (hne _ (by decide)).symm
    rw [hn, readWord?]
    show Option.map _ (if CodePoint.ofChar 'I' = c then _ else none) = none
    rw [if_neg hletter]
    rfl
  rw [Json.readAmount?, hword, h.readNumber?]
  rfl

theorem Closed.readValue?_ofInt {rest : Text} (h : Closed rest) (fuel : Nat) (n : Int) :
    readValue? (fuel + 1) (Text.ofInt n ++ rest) = some (.int n, rest) := by
  cases n with
  | ofNat n =>
    obtain ⟨c, digits, hn, hne⟩ := exists_digit n
    have hamount := h.readAmount? false n
    show readValue? (fuel + 1) (Text.ofNat n ++ rest) = _
    rw [hn, List.cons_append] at hamount ⊢
    rw [readValue?.eq_def]
    simp only [if_neg (hne (CodePoint.ofChar 'n') (by decide)),
      if_neg (hne (CodePoint.ofChar 't') (by decide)),
      if_neg (hne (CodePoint.ofChar 'f') (by decide)), if_neg (hne doubleQuote (by decide)),
      if_neg (hne (CodePoint.ofChar '[') (by decide)), if_neg (hne leftBrace (by decide)),
      if_neg (hne (CodePoint.ofChar '-') (by decide)), hamount]
    rfl
  | negSucc n =>
    have hamount := h.readAmount? true (n + 1)
    exact hamount

/-- Behind a value a mark is read with the blanks after it. -/
theorem Closed.readMark? {rest : Text} (h : Closed rest) {mark : CodePoint}
    (hmark : mark.isBlank = false) : readMark? mark (mark :: rest) = some rest := by
  rw [readMark?_self hmark, h.skipBlanks]

section Openings

variable {t : Text} (h : Opening t)
include h

theorem Opening.append (rest : Text) : Opening (t ++ rest) := by
  obtain ⟨c, t, rfl, hc⟩ := h
  exact ⟨c, t ++ rest, rfl, hc⟩

theorem Opening.skipBlanks : skipBlanks t = t := by
  obtain ⟨c, t, rfl, hblank, -⟩ := h
  exact skipBlanks_cons hblank t

theorem Opening.length_pos : 0 < t.length := by
  obtain ⟨c, t, rfl, -⟩ := h
  exact Nat.succ_pos _

theorem Opening.readMark?_closeBracket : readMark? closeBracket t = none := by
  obtain ⟨c, t, rfl, hblank, hbracket, -⟩ := h
  exact readMark?_other hblank hbracket t

theorem Opening.readMark?_rightBrace : readMark? rightBrace t = none := by
  obtain ⟨c, t, rfl, hblank, -, hbrace⟩ := h
  exact readMark?_other hblank hbrace t

/-- A blank behind a mark is skipped. -/
theorem Opening.readMark?_blank {mark : CodePoint} (hmark : mark.isBlank = false) :
    readMark? mark (mark :: CodePoint.ofChar ' ' :: t) = some t := by
  have hskip : Json.skipBlanks (CodePoint.ofChar ' ' :: t) = Json.skipBlanks t := rfl
  rw [readMark?_self hmark, hskip, h.skipBlanks]

theorem Opening.commaSeparated (ts : List Text) : Opening (Text.commaSeparated (t :: ts)) := by
  cases ts with
  | nil =>
    have hone : Text.commaSeparated [t] = t := by simp [Text.commaSeparated]
    rw [hone]
    exact h
  | cons u ts =>
    have hmore : Text.commaSeparated (t :: u :: ts) =
        t ++ (Caret.text ", " ++ Text.commaSeparated (u :: ts)) := by
      simp [Text.commaSeparated]
    rw [hmore]
    exact h.append _

end Openings

theorem commaSeparated_singleton (t : Text) : Text.commaSeparated [t] = t := by
  simp [Text.commaSeparated]

theorem commaSeparated_cons_cons (t u : Text) (ts : List Text) :
    Text.commaSeparated (t :: u :: ts) =
      t ++ comma :: CodePoint.ofChar ' ' :: Text.commaSeparated (u :: ts) := by
  have hmark : Caret.text ", " = [comma, CodePoint.ofChar ' '] := rfl
  simp [Text.commaSeparated, hmark]

/-! ### Brackets and braces -/

theorem readValue?_emptyArray {t rest : Text} (h : readMark? closeBracket t = some rest)
    (fuel : Nat) : readValue? (fuel + 1) (CodePoint.ofChar '[' :: t) = some (.array [], rest) := by
  rw [readValue?.eq_def]
  simp +decide only [if_true, if_false, h]

theorem readValue?_emptyObject {t rest : Text} (h : readMark? rightBrace t = some rest)
    (fuel : Nat) : readValue? (fuel + 1) (leftBrace :: t) = some (.object [], rest) := by
  rw [readValue?.eq_def]
  simp +decide only [if_true, if_false, h]

theorem Opening.readValue?_array {t : Text} (h : Opening t) (fuel : Nat) :
    readValue? (fuel + 1) (CodePoint.ofChar '[' :: t) =
      (readItems? fuel t).map fun p => (.array p.1, p.2) := by
  rw [readValue?.eq_def]
  simp +decide only [if_true, if_false, h.readMark?_closeBracket, h.skipBlanks]

theorem Opening.readValue?_object {t : Text} (h : Opening t) (fuel : Nat) :
    readValue? (fuel + 1) (leftBrace :: t) =
      (readMembers? fuel t).map fun p => (.object p.1, p.2) := by
  rw [readValue?.eq_def]
  simp +decide only [if_true, if_false, h.readMark?_rightBrace, h.skipBlanks]

theorem render_array (js : List Json) (rest : Text) : (Json.array js).render ++ rest =
    CodePoint.ofChar '[' :: (Text.commaSeparated (renderItems js) ++ closeBracket :: rest) := by
  have hopen : Caret.text "[" = [CodePoint.ofChar '['] := rfl
  have hclose : Caret.text "]" = [closeBracket] := rfl
  simp [render, hopen, hclose]

theorem render_object (ms : List (Text × Json)) (rest : Text) : (Json.object ms).render ++ rest =
    leftBrace :: (Text.commaSeparated (renderMembers ms) ++ rightBrace :: rest) := by
  have hopen : Caret.text "\x7b" = [leftBrace] := rfl
  have hclose : Caret.text "\x7d" = [rightBrace] := rfl
  simp [render, hopen, hclose]

/-- The last item, behind which the array is closed. -/
theorem readItems?_last {fuel : Nat} {t rest : Text} {j : Json} (hrest : Closed rest)
    (h : readValue? fuel t = some (j, closeBracket :: rest)) :
    readItems? (fuel + 1) t = some ([j], rest) := by
  have hcomma : readMark? comma (closeBracket :: rest) = none :=
    readMark?_other (by decide) (by decide) rest
  have hclose : readMark? closeBracket (closeBracket :: rest) = some rest :=
    hrest.readMark? (by decide)
  rw [readItems?, h]
  simp only [Option.bind_eq_bind, Option.bind_some, hcomma, hclose]
  rfl

theorem readItems?_cons {fuel : Nat} {t more : Text} {j : Json} (hmore : Opening more)
    (h : readValue? fuel t = some (j, comma :: CodePoint.ofChar ' ' :: more)) :
    readItems? (fuel + 1) t = (readItems? fuel more).map fun p => (j :: p.1, p.2) := by
  have hcomma : readMark? comma (comma :: CodePoint.ofChar ' ' :: more) = some more :=
    hmore.readMark?_blank (by decide)
  rw [readItems?, h]
  simp only [Option.bind_eq_bind, Option.bind_some, hcomma]

/-- A member: its name, a colon, a blank and its value. -/
def member (name value : Text) : Text := string name ++ Caret.text ": " ++ value

theorem opening_member (name value : Text) : Opening (member name value) :=
  ⟨_, _, rfl, by decide, by decide, by decide⟩

theorem member_append (name value rest : Text) :
    member name value ++ rest = member name (value ++ rest) := List.append_assoc ..

section Members

variable {fuel : Nat} {name value : Text} {j : Json}

theorem readMark?_colon (hvalue : Opening value) :
    readMark? (CodePoint.ofChar ':') (Caret.text ": " ++ value) = some value :=
  hvalue.readMark?_blank (by decide)

theorem readMembers?_last (hvalue : Opening value) {rest : Text} (hrest : Closed rest)
    (h : readValue? fuel value = some (j, rightBrace :: rest)) :
    readMembers? (fuel + 1) (member name value) = some ([(joinPairs name, j)], rest) := by
  have hcomma : readMark? comma (rightBrace :: rest) = none :=
    readMark?_other (by decide) (by decide) rest
  have hclose : readMark? rightBrace (rightBrace :: rest) = some rest :=
    hrest.readMark? (by decide)
  rw [readMembers?, member, List.append_assoc, readName?_string]
  simp only [Option.bind_eq_bind, Option.bind_some, readMark?_colon hvalue, h, hcomma, hclose,
    Option.map_some]

theorem readMembers?_cons (hvalue : Opening value) {more : Text} (hmore : Opening more)
    (h : readValue? fuel value = some (j, comma :: CodePoint.ofChar ' ' :: more)) :
    readMembers? (fuel + 1) (member name value) =
      (readMembers? fuel more).map fun p => ((joinPairs name, j) :: p.1, p.2) := by
  have hcomma : readMark? comma (comma :: CodePoint.ofChar ' ' :: more) = some more :=
    hmore.readMark?_blank (by decide)
  rw [readMembers?, member, List.append_assoc, readName?_string]
  simp only [Option.bind_eq_bind, Option.bind_some, readMark?_colon hvalue, h, hcomma]

end Members

theorem length_member (name value : Text) :
    (member name value).length = (string name).length + 2 + value.length := by
  rw [member, List.length_append, List.length_append, length_text]
  rfl

theorem renderMembers_cons (name : Text) (j : Json) (ms : List (Text × Json)) :
    renderMembers ((name, j) :: ms) = member name j.render :: renderMembers ms := rfl

/-! ### Reading what is written -/

theorem closed_comma (rest : Text) : Closed (comma :: rest) := closed_cons (.inl rfl) rest

theorem length_commaSeparated_cons_cons (t u : Text) (ts : List Text) :
    (Text.commaSeparated (t :: u :: ts)).length =
      t.length + 2 + (Text.commaSeparated (u :: ts)).length := by
  rw [commaSeparated_cons_cons]
  simp only [List.length_append, List.length_cons]
  omega

mutual

theorem readValue?_render : ∀ (j : Json) (fuel : Nat) (rest : Text), j.holdsDouble = false →
    j.render.length ≤ fuel → Closed rest →
    readValue? fuel (j.render ++ rest) = some (j.joined, rest)
  | j, 0, rest, h, hfuel, _ => by
    have hpos := (opening_render h).length_pos
    omega
  | .null, fuel + 1, rest, _, _, _ => rfl
  | .bool true, fuel + 1, rest, _, _, _ => rfl
  | .bool false, fuel + 1, rest, _, _, _ => rfl
  | .int n, fuel + 1, rest, _, _, hrest => hrest.readValue?_ofInt fuel n
  | .text t, fuel + 1, rest, _, _, _ => by
    show readValue? (fuel + 1) (string t ++ rest) = _
    rw [string_append]
    show (readText? (t.flatMap escape ++ doubleQuote :: rest)).map _ = _
    rw [readText?_string]
    rfl
  | .array [], fuel + 1, rest, _, _, hrest => by
    rw [render_array]
    exact readValue?_emptyArray (hrest.readMark? (by decide)) fuel
  | .array (j :: js), fuel + 1, rest, h, hfuel, hrest => by
    have hj : j.holdsDouble = false := (Bool.or_eq_false_iff.mp h).1
    have hopening := ((opening_render hj).commaSeparated (renderItems js)).append
      (closeBracket :: rest)
    have hlength := congrArg List.length (render_array (j :: js) [])
    simp only [List.length_append, List.length_cons, List.length_nil] at hlength
    have hitems := readItems?_render j js fuel rest h (by omega) hrest
    rw [render_array, renderItems, hopening.readValue?_array, ← renderItems, hitems]
    rfl
  | .object [], fuel + 1, rest, h, hfuel, hrest => by
    rw [render_object]
    exact readValue?_emptyObject (hrest.readMark? (by decide)) fuel
  | .object ((name, j) :: ms), fuel + 1, rest, h, hfuel, hrest => by
    have hopening := ((opening_member name j.render).commaSeparated (renderMembers ms)).append
      (rightBrace :: rest)
    have hlength := congrArg List.length (render_object ((name, j) :: ms) [])
    simp only [List.length_append, List.length_cons, List.length_nil] at hlength
    have hmembers := readMembers?_render name j ms fuel rest h (by omega) hrest
    rw [render_object, renderMembers_cons, hopening.readValue?_object, ← renderMembers_cons,
      hmembers]
    rfl

theorem readItems?_render : ∀ (j : Json) (js : List Json) (fuel : Nat) (rest : Text),
    itemsHoldDouble (j :: js) = false →
    (Text.commaSeparated (renderItems (j :: js))).length < fuel → Closed rest →
    readItems? fuel (Text.commaSeparated (renderItems (j :: js)) ++ closeBracket :: rest) =
      some (joinedItems (j :: js), rest)
  | _, _, 0, _, _, hfuel, _ => absurd hfuel (Nat.not_lt_zero _)
  | j, [], fuel + 1, rest, h, hfuel, hrest => by
    have hj : j.holdsDouble = false := (Bool.or_eq_false_iff.mp h).1
    have hone : Text.commaSeparated (renderItems [j]) = j.render := commaSeparated_singleton _
    rw [hone] at hfuel ⊢
    exact readItems?_last hrest (readValue?_render j fuel _ hj (by omega)
      (closed_cons (.inr (.inl rfl)) rest))
  | j, k :: js, fuel + 1, rest, h, hfuel, hrest => by
    obtain ⟨hj, hjs⟩ := Bool.or_eq_false_iff.mp h
    have hk : k.holdsDouble = false := (Bool.or_eq_false_iff.mp hjs).1
    have hmore := ((opening_render hk).commaSeparated (renderItems js)).append
      (closeBracket :: rest)
    have hrender : renderItems (j :: k :: js) = j.render :: k.render :: renderItems js := rfl
    rw [hrender, length_commaSeparated_cons_cons] at hfuel
    have hitems := readItems?_render k js fuel rest hjs (by rw [renderItems]; omega) hrest
    have hvalue := readValue?_render j fuel _ hj (by omega) (closed_comma (CodePoint.ofChar ' ' ::
      (Text.commaSeparated (renderItems (k :: js)) ++ closeBracket :: rest)))
    rw [hrender, commaSeparated_cons_cons, List.append_assoc, List.cons_append, List.cons_append,
      ← renderItems, readItems?_cons hmore hvalue, ← renderItems, hitems]
    rfl

theorem readMembers?_render : ∀ (name : Text) (j : Json) (ms : List (Text × Json)) (fuel : Nat)
    (rest : Text), membersHoldDouble ((name, j) :: ms) = false →
    (Text.commaSeparated (renderMembers ((name, j) :: ms))).length < fuel → Closed rest →
    readMembers? fuel
        (Text.commaSeparated (renderMembers ((name, j) :: ms)) ++ rightBrace :: rest) =
      some (joinedMembers ((name, j) :: ms), rest)
  | _, _, _, 0, _, _, hfuel, _ => absurd hfuel (Nat.not_lt_zero _)
  | name, j, [], fuel + 1, rest, h, hfuel, hrest => by
    have hj : j.holdsDouble = false := (Bool.or_eq_false_iff.mp h).1
    have hone : Text.commaSeparated (renderMembers [(name, j)]) = member name j.render :=
      commaSeparated_singleton _
    rw [hone, length_member] at hfuel
    have hvalue := readValue?_render j fuel _ hj (by omega)
      (closed_cons (.inr (.inr rfl)) rest)
    rw [hone, member_append]
    exact readMembers?_last ((opening_render hj).append _) hrest hvalue
  | name, j, (other, k) :: ms, fuel + 1, rest, h, hfuel, hrest => by
    obtain ⟨hj, hms⟩ := Bool.or_eq_false_iff.mp h
    have hmore := ((opening_member other k.render).commaSeparated (renderMembers ms)).append
      (rightBrace :: rest)
    have hrender : renderMembers ((name, j) :: (other, k) :: ms) =
        member name j.render :: member other k.render :: renderMembers ms := rfl
    rw [hrender, length_commaSeparated_cons_cons, length_member] at hfuel
    have hmembers := readMembers?_render other k ms fuel rest hms
      (by rw [renderMembers_cons]; omega) hrest
    have hvalue := readValue?_render j fuel _ hj (by omega) (closed_comma (CodePoint.ofChar ' ' ::
      (Text.commaSeparated (renderMembers ((other, k) :: ms)) ++ rightBrace :: rest)))
    rw [hrender, commaSeparated_cons_cons, List.append_assoc, List.cons_append, List.cons_append,
      ← renderMembers_cons, member_append,
      readMembers?_cons ((opening_render hj).append _) hmore hvalue, ← renderMembers_cons, hmembers]
    rfl

end

/-- **What is written is read back**, with the surrogates of its texts joined. -/
theorem parse?_render {j : Json} (h : j.holdsDouble = false) : parse? j.render = some j.joined := by
  have hvalue := readValue?_render j (j.render.length + 1) [] h (Nat.le_succ _) closed_nil
  rw [List.append_nil] at hvalue
  rw [parse?, (opening_render h).skipBlanks, hvalue]
  rfl

/-! ### Values in printable ASCII -/

theorem printed_ofInt (n : Int) : Printed (Text.ofInt n) := by
  cases n with
  | ofNat n => exact fun _ => Text.isPrint_of_mem_ofNat
  | negSucc n =>
    have hsign : Printed [CodePoint.ofChar '-'] := by decide
    exact hsign.append fun _ => Text.isPrint_of_mem_ofNat

theorem printed_commaSeparated {ts : List Text} (h : ∀ t ∈ ts, Printed t) :
    Printed (Text.commaSeparated ts) := by
  have hcomma : Printed [comma, CodePoint.ofChar ' '] := by decide
  induction ts with
  | nil => exact nofun
  | cons t ts ih =>
    have hmore := ih fun u hu => h u (List.mem_cons_of_mem t hu)
    cases ts with
    | nil =>
      rw [commaSeparated_singleton]
      exact h t List.mem_cons_self
    | cons u ts =>
      rw [commaSeparated_cons_cons]
      exact (h t List.mem_cons_self).append (hcomma.append hmore)

mutual

theorem printed_render : ∀ j : Json, j.holdsDouble = false → Printed j.render
  | .null, _ => by decide
  | .bool true, _ => by decide
  | .bool false, _ => by decide
  | .int n, _ => printed_ofInt n
  | .text t, _ => printed_string t
  | .array js, h => by
    have hopen : Printed (Caret.text "[") := by decide
    have hclose : Printed (Caret.text "]") := by decide
    exact (hopen.append (printed_commaSeparated (printed_renderItems js h))).append hclose
  | .object ms, h => by
    have hopen : Printed (Caret.text "\x7b") := by decide
    have hclose : Printed (Caret.text "\x7d") := by decide
    exact (hopen.append (printed_commaSeparated (printed_renderMembers ms h))).append hclose

theorem printed_renderItems : ∀ js : List Json, itemsHoldDouble js = false →
    ∀ t ∈ renderItems js, Printed t
  | [], _ => nofun
  | j :: js, h => by
    obtain ⟨hj, hjs⟩ := Bool.or_eq_false_iff.mp h
    intro t ht
    rcases List.mem_cons.mp ht with rfl | ht
    · exact printed_render j hj
    · exact printed_renderItems js hjs t ht

theorem printed_renderMembers : ∀ ms : List (Text × Json), membersHoldDouble ms = false →
    ∀ t ∈ renderMembers ms, Printed t
  | [], _ => nofun
  | (name, j) :: ms, h => by
    have hcolon : Printed (Caret.text ": ") := by decide
    obtain ⟨hj, hms⟩ := Bool.or_eq_false_iff.mp h
    intro t ht
    rcases List.mem_cons.mp ht with rfl | ht
    · exact ((printed_string name).append hcolon).append (printed_render j hj)
    · exact printed_renderMembers ms hms t ht

end

end Json

end Caret

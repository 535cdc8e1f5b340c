import Caret.Text.Basic

/-!
# Lines of a text

A text is split at line feeds, at returns, and at returns with a line feed after them, which are one
break. The last line has no break, so every text has at least one line. Main statement: the lines
with their breaks are the text.
-/

namespace Caret

structure Line where
  content : Text
  ending : Text

namespace Line

def toText (l : Line) : Text := l.content ++ l.ending

def addContent (c : CodePoint) : List Line → List Line
  | [] => []
  | l :: ls => ⟨c :: l.content, l.ending⟩ :: ls

def addEnding (c : CodePoint) : List Line → List Line
  | [] => []
  | l :: ls => ⟨l.content, c :: l.ending⟩ :: ls

end Line

namespace Text

def lines : Text → List Line
  | [] => [⟨[], []⟩]
  | c :: rest =>
    if c = CodePoint.ofChar '\n' then ⟨[], [c]⟩ :: lines rest
    else if c = CodePoint.ofChar '\r' then
      if rest.head? = some (CodePoint.ofChar '\n') then Line.addEnding c (lines rest)
      else ⟨[], [c]⟩ :: lines rest
    else Line.addContent c (lines rest)

theorem lines_ne_nil (t : Text) : lines t ≠ [] := by
  induction t with
  | nil => simp [lines]
  | cons c rest ih =>
    obtain ⟨l, ls, h⟩ := List.exists_cons_of_ne_nil ih
    unfold lines
    split
    · simp
    · split
      · split
        · simp [h, Line.addEnding]
        · simp
      · simp [h, Line.addContent]

/-- A line feed ends a line that has nothing else. -/
theorem lines_lineFeed (rest : Text) :
    lines (CodePoint.ofChar '\n' :: rest) = ⟨[], [CodePoint.ofChar '\n']⟩ :: lines rest := by
  simp [lines]

theorem flatMap_toText_lines (t : Text) : (lines t).flatMap Line.toText = t := by
  induction t with
  | nil => rfl
  | cons c rest ih =>
    obtain ⟨l, ls, h⟩ := List.exists_cons_of_ne_nil (lines_ne_nil rest)
    unfold lines
    split
    · simp [List.flatMap_cons, Line.toText, ih]
    · split
      · split
        · rename_i hr
          obtain ⟨more, rfl⟩ : ∃ more, rest = CodePoint.ofChar '\n' :: more := by
            cases rest with
            | nil => simp at hr
            | cons d more =>
              obtain rfl : d = CodePoint.ofChar '\n' := by simpa using hr
              exact ⟨more, rfl⟩
          rw [lines_lineFeed] at ih ⊢
          simp only [List.flatMap_cons, Line.toText, Line.addEnding, List.nil_append,
            List.cons_append] at ih ⊢
          rw [ih]
        · simp [List.flatMap_cons, Line.toText, ih]
      · rw [h] at ih ⊢
        simp only [List.flatMap_cons, Line.toText, Line.addContent, List.cons_append] at ih ⊢
        rw [ih]

end Text

end Caret

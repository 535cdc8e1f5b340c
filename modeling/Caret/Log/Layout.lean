import Caret.Template.Fill
import Caret.Text.Word

/-!
# Layouts

The layout of a log line is a template whose conversions ask for the fields of a record by name. A
text is a layout only if some field appears in it.
-/

namespace Caret

structure Layout where
  template : Template
  /-- The time of a record is worked out for the layouts that name it. -/
  usesTime : Bool

namespace Layout

/-! ### Texts that show a field -/

/-- Takes what is left of digits or a star. -/
def skipAmount (t : Text) : Text :=
  match t with
  | [] => []
  | c :: rest => if c = CodePoint.ofChar '*' then rest else t.dropWhile CodePoint.isDecimalDigit

/-- A point belongs to a precision only if digits or a star follow. -/
def skipPrecision (t : Text) : Text :=
  match Text.after? (text ".") t with
  | none => t
  | some rest => if (skipAmount rest).length < rest.length then skipAmount rest else t

/-- The codes of conversions in any case, with the letters beyond ASCII that fold to one. -/
def isCode (c : CodePoint) : Bool :=
  (text "diouxefgcrsaDIOUXEFGCRSA%").contains c || [0x130, 0x131, 0x17F].contains c.val

/-- A conversion of a field stands at the start of a text. -/
def beginsField (t : Text) : Bool :=
  match Text.after? (text "%(") t with
  | none => false
  | some rest =>
    match Text.after? (text ")") (rest.dropWhile CodePoint.isWord) with
    | none => false
    | some tail =>
      !(rest.takeWhile CodePoint.isWord).isEmpty &&
        (skipPrecision (skipAmount (tail.dropWhile Conversion.isFlag))).head?.any isCode

def showsField : Text → Bool
  | [] => false
  | c :: rest => beginsField (c :: rest) || showsField rest

/-! ### Layouts -/

def plainMessage : Layout := ⟨Template.parse (text "%(message)s"), false⟩

/-- The layout of a text; the empty text stands for the message alone. -/
def ofText (t : Text) : Except Fault Layout :=
  if t.isEmpty then .ok plainMessage
  else if showsField t then
    .ok ⟨Template.parse t, (Text.find? (text "%(asctime)") t).isSome⟩
  else .error (.badLayout t)

def field (name : String) : TemplatePiece :=
  .conversion ⟨some (.named (text name)), [], none, none, some 's', 0⟩

/-- The layout of setups. -/
def standard : Layout where
  template := [
    field "asctime", .literal (text " - "), field "name", .literal (text " - "),
    field "levelname", .literal (text " - "), field "message"]
  usesTime := true

/-- A conversion of a field writes the text that the field has. -/
theorem fillFrom_field (name : String) {entries : List (Value × Value)} {t : Text}
    (h : Value.valueAt? (.text (text name)) entries = some (.text t)) (rest : List Value)
    (template : Template) :
    Template.fillFrom ⟨some entries, rest⟩ (field name :: template) =
      (Template.fillFrom ⟨some entries, []⟩ template).map fun p => (t ++ p.1, p.2) := by
  have key : Value.filed (.text (text name)) = .ok (.ofText (text name)) := rfl
  have flag (c : CodePoint) : Text.contains [] c = false := rfl
  have narrow : Conversion.widthOf 0 = 0 := rfl
  have write (offset : Nat) :
      WriteStyle.write ⟨[], false, 0, none⟩ (CodePoint.ofChar 's') offset (.text t) = .ok t := by
    simp [WriteStyle.write, WriteStyle.writeText, WriteStyle.pad, Text.padLeft]
  have fill : Conversion.fill ⟨some (.named (text name)), [], none, none, some 's', 0⟩
      ⟨some entries, rest⟩ = .ok (t, ⟨some entries, []⟩) := by
    simp [Conversion.fill, Supply.select, Value.lookUp, key, h, Supply.width, Supply.precision,
      Supply.take, write, flag, narrow, Text.lengthLimit, bind, Except.bind, Except.map, pure,
      Except.pure]
  rw [field, Template.fillFrom, fill]
  show (Template.fillFrom ⟨some entries, []⟩ template).bind (fun p => .ok (t ++ p.1, p.2)) = _
  cases Template.fillFrom ⟨some entries, []⟩ template <;> rfl

def fill (layout : Layout) (fields : List (Value × Value)) : Except Fault Text :=
  match Template.fill (.ofEntries fields) layout.template with
  | .error (.missingKey name) => .error (.unknownField name)
  | r => r

end Layout

end Caret

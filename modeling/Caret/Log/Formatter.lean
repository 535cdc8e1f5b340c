import Caret.Color
import Caret.Json.OfValue
import Caret.Log.Layout
import Caret.Log.Record
import Caret.Mask

/-!
# Formatters

A formatter writes a log record as text: plainly by a layout, with terminal colors by a layout, or
as one JSON object. It also gives back the record, on which a plain formatter notes the expanded
message, the time and the text of the failure. The colored formatter paints a copy of the record and
gives back the record itself; the JSON formatter leaves it alone. The colored formatter is
`ColoredFormatter` with `colorize`, and the JSON one `JSONFormatter`, whose `_sanitize_value` is
`maskedField`. Main statements: the standard layout can be filled from every record on which the
message and the time are noted, and a plain line is the standard line with the text of the failure
behind it.
-/

namespace Caret

inductive Formatter where
  | plain (layout : Layout)
  | colored (layout : Layout)
  | json

namespace Formatter

def newline : CodePoint := CodePoint.ofChar '\n'

/-- Puts the text of a failure on lines of its own after a line. -/
def withFailure (failure line : Text) : Text :=
  if failure.isEmpty then line
  else (if line.getLast? = some newline then line else line ++ [newline]) ++ failure

/-- Expands the message, notes what the layout may show, and fills the layout. -/
def writePlain (layout : Layout) (r : Record) : Except Fault Text × Record :=
  match r.text with
  | .error f => (.error f, r)
  | .ok message =>
    let shown := if layout.usesTime then (r.noteMessage message).noteTime else r.noteMessage message
    match layout.fill shown.layoutFields with
    | .error f => (.error f, shown)
    | .ok line =>
      let told := shown.noteFailure
      (.ok (withFailure (told.notes.failure.getD []) line), told)

/-! ### Lines of the standard layout -/

/-- A line of the standard layout. -/
def standardLine (r : Record) (levelName message : Text) : Text :=
  r.origin.time ++ (text " - " ++ (r.logger ++ (text " - " ++
    (levelName ++ (text " - " ++ message)))))

theorem valueAt?_layoutFields {r : Record} {message time : Text}
    (hmessage : r.notes.message = some message) (htime : r.notes.time = some time) :
    let fields := r.layoutFields
    Value.valueAt? (.text (text "asctime")) fields = some (.text time) ∧
      Value.valueAt? (.text (text "name")) fields = some (.text r.logger) ∧
      Value.valueAt? (.text (text "levelname")) fields = some (.text r.levelName) ∧
      Value.valueAt? (.text (text "message")) fields = some (.text message) := by
  cases h : r.fields <;>
    simp +decide [Record.layoutFields, namedField, Value.valueAt?_text_cons, h, hmessage, htime]

/-- The standard layout can be filled once the message and the time are noted. -/
theorem fill_standard (r : Record) (message : Text) :
    Layout.standard.fill (r.noteMessage message).noteTime.layoutFields =
      .ok (standardLine r r.levelName message) := by
  obtain ⟨h1, h2, h3, h4⟩ :=
    valueAt?_layoutFields (r := (r.noteMessage message).noteTime) rfl rfl
  simp [Layout.fill, Template.fill, Layout.standard, Supply.ofEntries, Template.fillFrom,
    Layout.fillFrom_field, h1, h2, h3, h4, Except.map, bind, Except.bind, pure, Except.pure]
  rfl

/-- The text of a failure, as an earlier formatter has noted it or else as it is worked out now. -/
def failureText (r : Record) : Text := r.noteFailure.notes.failure.getD []

theorem writePlain_standard (r : Record) :
    (writePlain Layout.standard r).1 = r.text.map fun message =>
      withFailure (failureText r) (standardLine r r.levelName message) := by
  rw [writePlain]
  cases r.text with
  | error f => rfl
  | ok message =>
    have htime : Layout.standard.usesTime = true := rfl
    dsimp only
    rw [if_pos htime, fill_standard]
    dsimp only
    rw [Record.failure_noteFailure, failureText, Record.failure_noteFailure]
    rfl

/-! ### Colors -/

def levelCodes (level : Int) : Text :=
  if level = Level.debug then Color.grey.code
  else if level = Level.info then Color.blue.code
  else if level = Level.warning then Color.yellow.code
  else if level = Level.error then Color.red.code
  else if level = Level.critical then Color.bold.code ++ Color.red.code
  else Color.reset.code

/-- The record points at a column, and so the last line of its message is the pointer line. -/
def pointsAtColumn (r : Record) : Bool :=
  match r.fields with
  | some (.dictionary es) => es.any fun e => e.1.same (.text (text "column"))
  | _ => false

/-- Paints the last line of a record's message, if there are several and the record points at a
column. The message is expanded by then. -/
def highlighted (codes : Text) (r : Record) : Except Fault Record :=
  if pointsAtColumn r then
    r.text.map fun message =>
      match message.splitLast? newline with
      | some (head, last) =>
        { r with message := .text (head ++ newline :: paint codes last), arguments := [] }
      | none => r
  else .ok r

/-- A copy of a record with the codes of its level around the name of the level. -/
def named (r : Record) : Record := { r with levelName := paint (levelCodes r.level) r.levelName }

/-- A copy with the codes around the name of the level and around the pointer line. -/
def painted (r : Record) : Except Fault Record :=
  highlighted (Color.bold.code ++ levelCodes r.level) (named r)

/-- Writes the painted copy, and leaves the record itself as it is. -/
def writeColored (layout : Layout) (r : Record) : Except Fault Text × Record :=
  ((painted r).bind fun copy => (writePlain layout copy).1, r)

/-! ### JSON -/

/-- The fields that every record has. -/
def ownEntries (r : Record) (message : Text) : List (Value × Value) :=
  [namedField "timestamp" (.text r.origin.time), namedField "level" (.text r.levelName),
    namedField "logger" (.text r.logger), namedField "message" (.text message),
    namedField "module" (.text r.origin.moduleName),
    namedField "function" (.text r.origin.function), namedField "line" (.int r.origin.line)] ++
  match r.failure with
  | none => []
  | some f => [namedField "exception" (.text f.display)]

/-- Texts are masked, so that an offset recorded beside a text can be counted in it. -/
def maskedField : Value → Value
  | .text t => .text t.mask
  | v => v

/-- The extra fields of a record replace its own ones of the same name and follow the others. -/
def withFields (own : List (Value × Value)) : Option Value → Except Fault (List (Value × Value))
  | none => .ok own
  | some (.dictionary es) =>
    .ok (es.foldl (fun acc e => Value.insertEntry e.1 (maskedField e.2) acc) own)
  | some v => .error (.unable v.kindName (.attribute (text "items")))

def writeJson (r : Record) : Except Fault Text := do
  let message ← r.text
  let entries ← withFields (ownEntries r message) r.fields
  let j ← Value.toJson (.dictionary entries)
  pure j.render

/-- What a formatter writes of a record, and the record as it leaves it. -/
def format : Formatter → Record → Except Fault Text × Record
  | .plain layout, r => writePlain layout r
  | .colored layout, r => writeColored layout r
  | .json, r => (writeJson r, r)

end Formatter

end Caret

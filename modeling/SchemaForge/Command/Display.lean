import SchemaForge.Console.Table
import SchemaForge.Failure
import SchemaForge.Log

/-!
# Displays

What a command tells is a list of notices. They are shown one after the other: lines
and listings on standard output; events, complaints and tables on the error stream.
Lines, complaints and the cells of tables are texts with marks; a listing and an event
are shown as they are.

A notice that cannot be shown ends the display, and what was shown before it stays.
-/

namespace SchemaForge

/-- Something that a command tells. -/
inductive Notice where
  /-- A line with marks. -/
  | line (marked : Text)
  /-- Lines without marks. -/
  | listing (text : Text)
  /-- A line with marks, on the error stream. -/
  | complaint (marked : Text)
  /-- A table, on the error stream. -/
  | table (table : Table)
  /-- A step of the run, on the error stream. -/
  | event (event : LogEvent)

/-- What is seen of some notices. -/
structure Display where
  /-- The text on standard output. -/
  output : Text := []
  /-- The text on the error stream. -/
  errors : Text := []
deriving DecidableEq, Inhabited

namespace Severity

/-- The style of a severity. -/
def style : Severity → Text
  | error => "red"
  | warning => "yellow"
  | information => "blue"
  | hint => "dim"

end Severity

/-- A text between marks of a style. -/
def Markup.styled (style text : Text) : Text :=
  Text.concat ["[", style, "]", text, "[/", style, "]"]

namespace Diagnostic

/-- The columns of a table of findings. -/
def columns : List TableColumn :=
  [⟨"Severity", 10⟩, ⟨"Code", 8⟩, ⟨"Location", 10⟩, ⟨"Message", 0⟩]

/-- The row of a finding: severity, code, location, and the message with a hint if there is
one. -/
def row (finding : Diagnostic) : List Text :=
  let hint : Text :=
    match finding.suggestion with
    | none | some [] => []
    | some suggestion =>
      CodePoint.lineFeed :: Markup.styled "dim" (Text.concat ["hint: ", suggestion])
  [Markup.styled finding.severity.style finding.severity.label, finding.code, finding.location,
    finding.message ++ hint]

/-- The table of some findings; without findings there is none. -/
def notices (title : Text) (findings : List Diagnostic) : List Notice :=
  if findings.isEmpty then [] else [.table ⟨title, columns, findings.map row⟩]

end Diagnostic

namespace LogEvent

/-- The width of the column in which the level of an event stands. -/
def levelWidth : Nat := 8

/-- The lines of an event: its level, and the message beside it. -/
def lines (event : LogEvent) : List Text :=
  let message : StyledText := { text := event.message.filter (fun c => !Markup.isControl c) }
  (message.lines.map (fun line => line.expandTabs.text)).mapIdx (fun index line =>
    let label : Text := if index = 0 then event.level.label else []
    Text.concat [Text.padTo levelWidth label, " ", line])

end LogEvent

/-- A text in which every surrogate is spelled by its number, as the error stream needs
it. -/
def Text.withoutSurrogates (text : Text) : Text :=
  text.flatMap (fun c =>
    if c.isSurrogate then "\\u" ++ Text.padded 16 4 c.val else [c])

namespace Display

/-- The display with more text on standard output, which must have bytes. -/
def withOutput (display : Display) (text : Text) : Except Failure Display :=
  match Utf8.encode text with
  | .ok _ => .ok { display with output := display.output ++ text }
  | .error fault => .error (.unprintable fault)

/-- The display with more lines on the error stream. -/
def withErrors (display : Display) (lines : List Text) : Display :=
  let shown := lines.flatMap (fun line => line.withoutSurrogates ++ [.lineFeed])
  { display with errors := display.errors ++ shown }

/-- The display with one more notice. -/
def withNotice (display : Display) : Notice → Except Failure Display
  | .line marked => do
    let text ← (Markup.print marked).mapError Failure.markup
    display.withOutput (text ++ [.lineFeed])
  | .listing text =>
    display.withOutput (if text.getLast? = some .lineFeed then text else text ++ [.lineFeed])
  | .complaint marked => do
    let text ← (Markup.print marked).mapError Failure.markup
    pure (display.withErrors [text])
  | .table table => do
    let lines ← table.draw.mapError Failure.markup
    pure (display.withErrors lines)
  | .event event => .ok (display.withErrors event.lines)

/-- The display of some notices behind what is shown already, and what ended it early. -/
def showFrom (display : Display) : List Notice → Display × Option Failure
  | [] => (display, none)
  | notice :: notices =>
    match display.withNotice notice with
    | .ok longer => showFrom longer notices
    | .error failure => (display, some failure)

end Display

end SchemaForge

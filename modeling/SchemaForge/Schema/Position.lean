import SchemaForge.Text.Basic

/-!
# Positions in a schema text

A position is the offset of a code point together with the line and the column
that a reader sees. Only a line feed begins a new line; every other code point,
whatever its width, moves the column by one. A span is the half-open range of
offsets that a piece of syntax covers, with the line and column of its start.
-/

namespace SchemaForge

/-- A place between two code points of a text. -/
structure Position where
  /-- How many code points lie before the place. -/
  offset : Nat
  /-- One more than the number of line feeds before the place. -/
  line : Nat
  /-- One more than the number of code points since the last line feed. -/
  column : Nat
deriving DecidableEq, Inhabited

namespace Position

/-- The place before the first code point. -/
def origin : Position := ⟨0, 1, 1⟩

/-- The place after one more code point. -/
def step (place : Position) (c : CodePoint) : Position :=
  if c = .lineFeed then ⟨place.offset + 1, place.line + 1, 1⟩
  else ⟨place.offset + 1, place.line, place.column + 1⟩

/-- The place after a whole text. -/
def through (place : Position) (text : Text) : Position := text.foldl step place

end Position

/-- The range of offsets that a piece of syntax covers. -/
structure Span where
  /-- The offset of the first code point. -/
  start : Nat
  /-- The offset after the last code point. -/
  stop : Nat
  /-- The line of the first code point, counted from one. -/
  line : Nat
  /-- The column of the first code point, counted from one. -/
  column : Nat
deriving DecidableEq, Inhabited

namespace Span

/-- The span of syntax that came from no text. -/
def unknown : Span := ⟨0, 0, 0, 0⟩

/-- A span shows the line and column where it starts. -/
def describe (span : Span) : Text :=
  Text.concat ["Span(", Text.ofNat span.line, ":", Text.ofNat span.column, ")"]

end Span

/-- A location names a schema text, or says that it is unknown, and gives a line and
a column in it. An empty name counts as no name. -/
def renderLocation (source : Option Text) (line column : Int) : Text :=
  let name : Text :=
    match source with
    | none => "<unknown>"
    | some [] => "<unknown>"
    | some name => name
  Text.concat [name, ":[", Text.ofInt line, ", ", Text.ofInt column, "]"]

end SchemaForge

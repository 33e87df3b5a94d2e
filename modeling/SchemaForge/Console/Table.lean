import SchemaForge.Console.Markup

/-!
# Tables

A table has a title, columns with titles of their own, and rows of cells, which are
texts with marks. Its lines are drawn with box characters, heavy ones around the
titles of the columns. A column is as wide as the longest line in it. A cell may have
several lines, and a row is as high as its highest cell.

The marks of all cells are read before anything is drawn, column by column; the styles
of a cell are read when it is drawn, row by row. The first fault on that way counts.
-/

namespace SchemaForge

/-- A column of a table. -/
structure TableColumn where
  /-- The title. -/
  title : Text
  /-- The least number of cells of the console that it takes. -/
  leastWidth : Nat := 0
deriving DecidableEq, Inhabited

/-- A table. -/
structure Table where
  /-- The title. -/
  title : Text
  /-- The columns. -/
  columns : List TableColumn
  /-- The cells with marks, row by row, one for each column. -/
  rows : List (List Text)
deriving DecidableEq, Inhabited

namespace Table

/-- The width of a column with some cells. -/
def widthOf (column : TableColumn) (cells : List StyledText) : Nat :=
  (cells.map StyledText.widest).foldl max (max column.leastWidth (Text.cells column.title))

/-- A line from one edge to the other: the left edge, a filling for each column, what
stands between columns, and the right edge. -/
def ruleLine (left filling between right : Text) (widths : List Nat) : Text :=
  let fillings := widths.map (fun width => Text.concat (List.replicate (width + 2) filling))
  Text.concat [left, Text.join between fillings, right]

/-- A line of cells between edges. -/
def cellLine (edge : Text) (widths : List Nat) (cells : List Text) : Text :=
  let padded := (widths.zip cells).map (fun (width, cell) =>
    Text.concat [" ", Text.padTo width cell, " "])
  Text.concat [edge, Text.join edge padded, edge]

/-- The lines of a row. -/
def rowLines (widths : List Nat) (cells : List StyledText) : Except Markup.Fault (List Text) := do
  let columns := (widths.zip cells).map (fun (width, cell) => cell.linesWithin width)
  (columns.flatten.forM StyledText.checkStyles).mapError Markup.Fault.numeral
  let height := (columns.map List.length).foldl max 0
  pure ((List.range height).map (fun index =>
    cellLine "│" widths (columns.map (fun lines => (lines.getD index default).text))))

/-- A line in the middle of a width. -/
def centred (width : Nat) (line : Text) : Text :=
  Text.padTo width (Text.blanks ((width - Text.cells line) / 2) ++ line)

/-- The lines of a table as they are drawn. -/
def draw (table : Table) : Except Markup.Fault (List Text) := do
  let cells ← (List.range table.columns.length).mapM (fun index =>
    table.rows.mapM (fun row => Markup.render (row.getD index [])))
  let widths := (table.columns.zip cells).map (fun (column, cells) => widthOf column cells)
  let rows ← (List.range table.rows.length).mapM (fun index =>
    rowLines widths (cells.map (fun column => column.getD index default)))
  let top := ruleLine "┏" "━" "┳" "┓" widths
  let head := cellLine "┃" widths (table.columns.map TableColumn.title)
  let belowHead := ruleLine "┡" "━" "╇" "┩" widths
  let belowRow := ruleLine "├" "─" "┼" "┤" widths
  let bottom := ruleLine "└" "─" "┴" "┘" widths
  pure ([centred top.length table.title, top, head, belowHead] ++
    ((rows.map (· ++ [belowRow])).flatten).dropLast ++ [bottom])

end Table

end SchemaForge

import SchemaForge.Text.Lines

/-!
# Block strings

The value of a block string is its raw body without the indentation that all
later lines share and without blank lines at either end. Indentation is blanks
and tabs. The first line stands behind the opening quotes, so it neither
contributes to the shared indentation nor loses any.

Lines end wherever `Text.splitLines` ends them, which is more often than at line
feeds and carriage returns.
-/

namespace SchemaForge.BlockString

/-- How many blanks and tabs a line begins with. -/
def indentation (line : Text) : Nat := (line.takeWhile CodePoint.isIndent).length

/-- A line of nothing but blanks and tabs, or of nothing at all. -/
def isBlankLine (line : Text) : Bool := line.all CodePoint.isIndent

/-- The smallest indentation among the lines that are not blank, if there is one. -/
def sharedIndentation (lines : List Text) : Option Nat :=
  ((lines.filter (fun line => !isBlankLine line)).map indentation).min?

/-- The lines after the first lose their shared indentation. -/
def unindent : List Text → List Text
  | [] => []
  | first :: others => first :: others.map (List.drop ((sharedIndentation others).getD 0))

/-- The lines without blank ones at either end. -/
def trimBlankLines (lines : List Text) : List Text :=
  ((lines.dropWhile isBlankLine).reverse.dropWhile isBlankLine).reverse

/-- The value of a block string with the given raw body. -/
def value (raw : Text) : Text :=
  Text.join [.lineFeed] (trimBlankLines (unindent (Text.splitLines raw)))

end SchemaForge.BlockString

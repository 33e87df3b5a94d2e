import SchemaForge.Text.Basic

/-!
# Lines and white space

Two notions of a line end are kept apart. `splitLines` ends a line at every
vertical separator of Unicode; `normalizeNewlines` only reads the three common
spellings of a new line as one. The white space that `strip` removes is that of
Unicode; indentation, which is blanks and tabs alone, is decided where it is used.
-/

namespace SchemaForge.CodePoint

/-- The code points at which a line of text ends: line feed, vertical tab, form
feed, carriage return, the three information separators, next line, and the line
and paragraph separators. -/
def isLineEnd (c : CodePoint) : Bool :=
  (0x0A ≤ c.val && c.val ≤ 0x0D) || (0x1C ≤ c.val && c.val ≤ 0x1E) || c.val = 0x85 ||
    c.val = 0x2028 || c.val = 0x2029

/-- White space in the sense of Unicode, the information separators included. -/
def isSpace (c : CodePoint) : Bool :=
  (0x09 ≤ c.val && c.val ≤ 0x0D) || (0x1C ≤ c.val && c.val ≤ 0x20) || c.val = 0x85 ||
    c.val = 0xA0 || c.val = 0x1680 || (0x2000 ≤ c.val && c.val ≤ 0x200A) || c.val = 0x2028 ||
    c.val = 0x2029 || c.val = 0x202F || c.val = 0x205F || c.val = 0x3000

/-- A blank or a tab, the only characters that indent. -/
def isIndent (c : CodePoint) : Bool := c = ' ' || c = .tab

end SchemaForge.CodePoint

namespace SchemaForge.Text

/-- The lines of the rest of a text whose current line has been read up to here.
The line read so far is given backwards. A line end closes a line, so a text that
ends with one has no empty last line. A carriage return and a line feed that
follow one another are one line end. -/
def linesFrom (current : Text) : Text → List Text
  | [] => if current.isEmpty then [] else [current.reverse]
  | c :: rest =>
    if c = .carriageReturn then
      match rest with
      | d :: rest' =>
        if d = .lineFeed then current.reverse :: linesFrom [] rest'
        else current.reverse :: linesFrom [] (d :: rest')
      | [] => [current.reverse]
    else if c.isLineEnd then current.reverse :: linesFrom [] rest
    else linesFrom (c :: current) rest
termination_by text => text.length

/-- The lines of a text, without their ends. -/
def splitLines (text : Text) : List Text := linesFrom [] text

/-- A carriage return, alone or before a line feed, is read as a line feed. -/
def normalizeNewlines : Text → Text
  | [] => []
  | c :: rest =>
    if c = .carriageReturn then
      match rest with
      | d :: rest' =>
        if d = .lineFeed then CodePoint.lineFeed :: normalizeNewlines rest'
        else CodePoint.lineFeed :: normalizeNewlines (d :: rest')
      | [] => [CodePoint.lineFeed]
    else c :: normalizeNewlines rest
termination_by text => text.length

/-- The text without white space at its ends. -/
def strip (text : Text) : Text := trim CodePoint.isSpace text

/-- The text holds nothing but white space. -/
def isBlank (text : Text) : Bool := text.all CodePoint.isSpace

end SchemaForge.Text

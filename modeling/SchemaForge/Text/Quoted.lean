import SchemaForge.Text.Printable

/-!
# Quoted texts

The quoted form of a text is a string literal on one line: it shows printable
code points as themselves and everything else by an escape, so no line end and
no unpaired surrogate survives in it. A text is put between apostrophes, unless
it holds an apostrophe and no double quote.
-/

namespace SchemaForge.Text

/-- The quote that a text is written in: the apostrophe, unless the text has one
and has no double quote. -/
def quoteMark (text : Text) : CodePoint :=
  if contains .apostrophe text && !contains .quote text then .quote else .apostrophe

/-- A code point by its number, with two, four or eight hexadecimal digits, as few as the
number needs. -/
def numberEscape (c : CodePoint) : Text :=
  if c.val < 0x100 then "\\x" ++ padded 16 2 c.val
  else if c.val < 0x10000 then "\\u" ++ padded 16 4 c.val
  else "\\U" ++ padded 16 8 c.val

/-- How one code point is written between two quotes of the given kind. -/
def quotedUnit (mark c : CodePoint) : Text :=
  if c = mark || c = .backslash then [.backslash, c]
  else if c = .lineFeed then "\\n"
  else if c = .carriageReturn then "\\r"
  else if c = .tab then "\\t"
  else if c.isPrintable then [c]
  else numberEscape c

/-- The quoted form of a text. -/
def quoted (text : Text) : Text :=
  let mark := quoteMark text
  mark :: text.flatMap (quotedUnit mark) ++ [mark]

end SchemaForge.Text

import SchemaForge.Yaml.Scalar
import SchemaForge.Yaml.Token

/-!
# Printing records

A list of records in block style: a dash before the first field of each record,
one field on a line. A text is written without quotes where it then still reads as
itself, else in single quotes, and in double quotes with escapes only where it
holds something that single quotes cannot show. Lines longer than the preferred
width are folded at blanks.
-/

namespace SchemaForge.Yaml

/-- The value of a field in a record. -/
inductive FieldValue where
  | text (value : Text)
  | flag (value : Bool)

/-- What there is in a text that decides how it can be written. -/
structure Traits where
  /-- Something that only block text without quotes must not hold. -/
  blockIndicators : Bool := false
  /-- A line end. -/
  lineBreaks : Bool := false
  /-- Something that only an escape can show. -/
  special : Bool := false
  /-- White space at an end. -/
  looseEnd : Bool := false
  /-- A blank behind a line end. -/
  breakSpace : Bool := false
  /-- A line end behind a blank. -/
  spaceBreak : Bool := false
deriving DecidableEq

/-- The line ends that texts are written with. -/
def isWrittenBreak (c : CodePoint) : Bool :=
  c = .lineFeed || c.val = 0x85 || c.val = 0x2028 || c.val = 0x2029

/-- A code point that can be shown without an escape. -/
def isShown (c : CodePoint) : Bool :=
  c = .lineFeed || (0x20 ≤ c.val && c.val ≤ 0x7E) ||
    ((c.val = 0x85 || (0xA0 ≤ c.val && c.val ≤ 0xD7FF) || (0xE000 ≤ c.val && c.val ≤ 0xFFFD) ||
        (0x10000 ≤ c.val && c.val < 0x10FFFF)) && c.val ≠ 0xFEFF)

/-- White space around which a sign may mean something. -/
def isSignificantSpace (c : CodePoint) : Bool := c.val = 0 || isBlankOrBreak c

/-- Whether the first code point is a sign that a block gives a meaning to. -/
def leadsBlock (c : CodePoint) (followedBySpace : Bool) : Bool :=
  isOneOf "#,[]\x7b\x7d&*!|>%@\x60" c || c = .apostrophe || c = .quote ||
    (isOneOf "?:-" c && followedBySpace)

/-- Whether a later code point is a sign that a block gives a meaning to. -/
def disturbsBlock (c : CodePoint) (precededBySpace followedBySpace : Bool) : Bool :=
  (c = ':' && followedBySpace) || (c = '#' && precededBySpace)

/-- Collects the traits of the rest of a text behind a given code point. -/
def collectTraits (before : Option CodePoint) (traits : Traits) : Text → Traits
  | [] => traits
  | c :: rest =>
    let followedBySpace := rest.head?.all isSignificantSpace
    let precededBySpace := before.all isSignificantSpace
    let sign :=
      match before with
      | none => leadsBlock c followedBySpace
      | some _ => disturbsBlock c precededBySpace followedBySpace
    let space := decide (c = ' ')
    let written := isWrittenBreak c
    let atEnd := before.isNone || rest.isEmpty
    collectTraits (some c)
      { blockIndicators := traits.blockIndicators || sign,
        lineBreaks := traits.lineBreaks || written,
        special := traits.special || !isShown c,
        looseEnd := traits.looseEnd || ((space || written) && atEnd),
        breakSpace := traits.breakSpace || (space && before.any isWrittenBreak),
        spaceBreak :=
          traits.spaceBreak || (written && before.any (fun (b : CodePoint) => decide (b = ' '))) }
      rest

/-- The traits of a text. A document marker at its start is a sign of its own. -/
def traitsOf (text : Text) : Traits :=
  let marked := Text.startsWith text "---" || Text.startsWith text "..."
  collectTraits none { blockIndicators := marked } text

/-- The ways to write a text. -/
inductive Style where
  | plain | single | double
deriving DecidableEq

/-- The plainest way to write a text. -/
def styleOf (text : Text) : Style :=
  let traits := traitsOf text
  let noPlain :=
    traits.looseEnd || traits.breakSpace || traits.spaceBreak || traits.special ||
      traits.lineBreaks || traits.blockIndicators
  if Tag.ofPlain text = .text && !noPlain then .plain
  else if traits.breakSpace || traits.spaceBreak || traits.special then .double
  else .single

/-- The preferred width of a line. -/
def preferredWidth : Nat := 80

/-- The column of the further lines of a folded text. -/
def foldColumn : Nat := 4

/-- A new line, indented to the column of folded text. -/
def foldedLine : Text := CodePoint.lineFeed :: Text.blanks foldColumn

/-- The runs of a text: words, blanks and line ends apart. -/
inductive Run where
  | word (text : Text)
  | blanks (count : Nat)
  | breaks (text : Text)
deriving DecidableEq

/-- One more code point in front of some runs. -/
def Run.push (c : CodePoint) (runs : List Run) : List Run :=
  if c = ' ' then
    match runs with
    | .blanks count :: others => .blanks (count + 1) :: others
    | _ => .blanks 1 :: runs
  else if isWrittenBreak c then
    match runs with
    | .breaks text :: others => .breaks (c :: text) :: others
    | _ => .breaks [c] :: runs
  else
    match runs with
    | .word text :: others => .word (c :: text) :: others
    | _ => .word [c] :: runs

/-- The runs of a text. -/
def runsOf (text : Text) : List Run := text.foldr Run.push []

/-- Writes runs from a column on. A single blank inside the text is folded behind the
preferred width; apostrophes are doubled inside quotes. The second argument says
whether something of the text has been written. -/
def writeRuns (quoted : Bool) (column : Nat) (inside : Bool) : List Run → Text
  | [] => []
  | .word text :: others =>
    let shown :=
      if quoted then Text.replace .apostrophe [] [.apostrophe, .apostrophe] text else text
    shown ++ writeRuns quoted (column + shown.length) true others
  | .blanks count :: others =>
    if count = 1 && preferredWidth < column && inside && !others.isEmpty then
      foldedLine ++ writeRuns quoted foldColumn true others
    else Text.blanks count ++ writeRuns quoted (column + count) true others
  | .breaks text :: others =>
    let lead : Text := if text.head? = some .lineFeed then [.lineFeed] else []
    lead ++ text ++ Text.blanks foldColumn ++ writeRuns quoted foldColumn true others

/-- How a code point is escaped in double quotes, if it is. -/
def escape? (c : CodePoint) : Option Text :=
  let letter (name : Char) : Option Text := some [.backslash, CodePoint.ofChar name]
  if c.val = 0 then letter '0'
  else if c.val = 0x07 then letter 'a'
  else if c.val = 0x08 then letter 'b'
  else if c.val = 0x09 then letter 't'
  else if c.val = 0x0A then letter 'n'
  else if c.val = 0x0B then letter 'v'
  else if c.val = 0x0C then letter 'f'
  else if c.val = 0x0D then letter 'r'
  else if c.val = 0x1B then letter 'e'
  else if c = .quote || c = .backslash then some [.backslash, c]
  else if c.val = 0x85 then letter 'N'
  else if c.val = 0x2028 then letter 'L'
  else if c.val = 0x2029 then letter 'P'
  else if (0x20 ≤ c.val && c.val ≤ 0x7E) || (0xA0 ≤ c.val && c.val ≤ 0xD7FF) ||
      (0xE000 ≤ c.val && c.val ≤ 0xFFFD && c.val ≠ 0xFEFF) then none
  else
    let digits (width : Nat) : Text :=
      (Text.padded 16 width c.val).map (fun d =>
        if d.isLower then CodePoint.ofNat (d.val - 32) else d)
    if c.val ≤ 0xFF then some (Text.concat ["\\x", digits 2])
    else if c.val ≤ 0xFFFF then some (Text.concat ["\\u", digits 4])
    else some (Text.concat ["\\U", digits 8])

/-- Writes a text between double quotes from a column on. The code points read but not
written yet are pending. A line is folded before a blank or where nothing is pending,
with a backslash at its end, and one more before a blank that begins the next line. -/
def writeDouble (column : Nat) (inside : Bool) (pending : Text) : Text → Text
  | [] => pending
  | c :: rest =>
    let folds (width : Nat) : Bool := inside && !rest.isEmpty && preferredWidth < width
    let lead (next : Option CodePoint) : Text :=
      if next.any (fun (d : CodePoint) => decide (d = ' ')) then [.backslash] else []
    match escape? c with
    | some escaped =>
      let column := column + pending.length + escaped.length
      if folds (column - 1) then
        let next := lead rest.head?
        Text.concat [pending, escaped, [.backslash], foldedLine, next] ++
          writeDouble (foldColumn + next.length) true [] rest
      else pending ++ escaped ++ writeDouble column true [] rest
    | none =>
      if (c = ' ' || pending.isEmpty) && folds (column + pending.length) then
        let next := lead (some c)
        Text.concat [pending, [.backslash], foldedLine, next] ++
          writeDouble (foldColumn + next.length) true [c] rest
      else writeDouble column true (pending ++ [c]) rest

/-- A text as the value of a field, behind a colon that ends at a column. -/
def writeText (column : Nat) (text : Text) : Text :=
  match styleOf text with
  | .plain => Text.concat [" ", writeRuns false (column + 1) false (runsOf text)]
  | .single => Text.concat [" '", writeRuns true (column + 2) false (runsOf text), "'"]
  | .double =>
    Text.concat [" ", [.quote], writeDouble (column + 2) false [] text, [.quote]]

/-- A field of a record behind its two columns of indentation. -/
def writeField (field : Text × FieldValue) : Text :=
  let head := field.1 ++ ":"
  match field.2 with
  | .text value => head ++ writeText (head.length + 2) value
  | .flag value => head ++ (if value then " true" else " false")

/-- A record: a dash before its first field, and blanks before the others. -/
def writeRecord : List (Text × FieldValue) → Text
  | [] => "- \x7b\x7d\n"
  | first :: others =>
    Text.concat ["- ", writeField first, "\n"] ++
      others.flatMap (fun field => Text.concat ["  ", writeField field, "\n"])

/-- A list of records. -/
def writeRecords (records : List (List (Text × FieldValue))) : Text :=
  if records.isEmpty then "[]\n" else records.flatMap writeRecord

end SchemaForge.Yaml

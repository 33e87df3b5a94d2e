import SchemaForge.Console.Style
import SchemaForge.Console.Width

/-!
# Styled texts

A text for a console with the styles of its parts. Colours are not shown, but the
words of a style are read when the text is shown, and some words cannot be read; so
it matters which parts are left when a text is divided into lines. An undivided text
keeps all its parts. A piece of a divided text keeps what it has in common with a
part, if that is anything at all.

A line with tabs is divided at them. A tab goes on to the next column whose number is
a multiple of eight. A line that is too long for its width is broken between words,
and a piece that is still too long ends with an ellipsis.
-/

namespace SchemaForge

/-- A part of a text with the words of its style. -/
structure StyledPart where
  /-- Where it starts. -/
  start : Nat
  /-- Where it ends; this code point is not in it. -/
  stop : Nat
  /-- The words of its style. -/
  style : Text
deriving DecidableEq, Inhabited

/-- A text with the styles of its parts. -/
structure StyledText where
  /-- The text. -/
  text : Text
  /-- The parts. -/
  parts : List StyledPart := []
deriving DecidableEq, Inhabited

namespace StyledPart

/-- What a part has in common with the code points from `start` to `stop`, as seen from
there. -/
def within? (start stop : Nat) (part : StyledPart) : Option StyledPart :=
  let common : StyledPart :=
    ⟨max part.start start - start, min part.stop stop - start, part.style⟩
  if common.start < common.stop then some common else none

/-- The part as seen from a place before its text. -/
def shifted (distance : Nat) (part : StyledPart) : StyledPart :=
  ⟨part.start + distance, part.stop + distance, part.style⟩

end StyledPart

namespace StyledText

/-- The piece from `start` to `stop`. -/
def slice (styled : StyledText) (start stop : Nat) : StyledText :=
  ⟨(styled.text.drop start).take (stop - start), styled.parts.filterMap (·.within? start stop)⟩

/-- The pieces between some places. Without a place the text stays as it is. -/
def divide (styled : StyledText) (places : List Nat) : List StyledText :=
  if places.isEmpty then [styled]
  else
    ((0 :: places).zip (places ++ [styled.text.length])).map (fun (start, stop) =>
      styled.slice start stop)

/-- One text behind another. -/
def append (left right : StyledText) : StyledText :=
  ⟨left.text ++ right.text, left.parts ++ right.parts.map (·.shifted left.text.length)⟩

/-- The places of a code point in the rest of a text that starts at a place. -/
def placesFrom (place : Nat) (c : CodePoint) : Text → List Nat
  | [] => []
  | d :: rest =>
    let others := placesFrom (place + 1) c rest
    if d = c then place :: others else others

/-- The places of a code point in a text. -/
def placesOf (c : CodePoint) (text : Text) : List Nat := placesFrom 0 c text

/-- The lines of a text. -/
def lines (styled : StyledText) : List StyledText :=
  match placesOf .lineFeed styled.text with
  | [] => [styled]
  | ends =>
    ((0 :: ends.map (· + 1)).zip (ends ++ [styled.text.length])).map (fun (start, stop) =>
      styled.slice start stop)

/-! ## Tabs -/

/-- The distance between the columns that tabs go to. -/
def tabDistance : Nat := 8

/-- A piece that ends with a tab, with blanks instead, and the column behind it. The first
blank stands for the tab itself, and the others reach the next column for tabs. -/
def expandTab (column : Nat) (piece : StyledText) : StyledText × Nat :=
  let text := piece.text.dropLast ++ Text.blanks 1
  let reached := column + Text.cells text
  let missing := (tabDistance - reached % tabDistance) % tabDistance
  ({ piece with text := text ++ Text.blanks missing }, reached + missing)

/-- Pieces of a line from a column on, with blanks in place of the tabs. -/
def expandPieces (column : Nat) : List StyledText → StyledText
  | [] => { text := [] }
  | piece :: pieces =>
    if piece.text.getLast? = some .tab then
      let (expanded, reached) := expandTab column piece
      expanded.append (expandPieces reached pieces)
    else piece.append (expandPieces (column + Text.cells piece.text) pieces)

/-- A line with blanks in place of its tabs. -/
def expandTabs (line : StyledText) : StyledText :=
  match placesOf .tab line.text with
  | [] => line
  | tabs => expandPieces 0 (line.divide (tabs.map (· + 1)))

/-! ## Breaking lines -/

/-- A line is longer than what is behind its first code point that is no white space. -/
theorem length_behind_space {line rest : Text} {c : CodePoint}
    (found : line.dropWhile CodePoint.isSpace = c :: rest) : rest.length < line.length := by
  have suffix := (List.dropWhile_suffix (l := line) CodePoint.isSpace).length_le
  rw [found, List.length_cons] at suffix
  omega

/-- The words of a line, each with the white space behind it; the first one has that
before it too. White space alone is no word. -/
def wordsOf (line : Text) : List Text :=
  let lead := line.takeWhile CodePoint.isSpace
  match found : line.dropWhile CodePoint.isSpace with
  | [] => []
  | c :: rest =>
    have := length_behind_space found
    let core := rest.takeWhile (fun d => !d.isSpace)
    let behind := (rest.drop core.length).takeWhile CodePoint.isSpace
    (lead ++ c :: (core ++ behind)) :: wordsOf (rest.drop (core.length + behind.length))
termination_by line.length
decreasing_by
  simp only [List.length_drop]
  omega

/-- The places at which words from `start` on are broken into lines, if the current line
has `used` cells. A word that is too long for any line has one of its own. -/
def breaksFrom (width start used : Nat) : List Text → List Nat
  | [] => []
  | word :: words =>
    let next := start + word.length
    if used + Text.cells (Text.trimEnd CodePoint.isSpace word) ≤ width then
      breaksFrom width next (used + Text.cells word) words
    else
      (if start = 0 then [] else [start]) ++ breaksFrom width next (Text.cells word) words

/-- The piece without as much of the white space at its end as is too much. -/
def cropEnd (width : Nat) (piece : StyledText) : StyledText :=
  let kept := (Text.trimEnd CodePoint.isSpace piece.text).length
  if width < piece.text.length && kept < piece.text.length then
    let length := max kept width
    { text := piece.text.take length,
      parts := (piece.parts.filter (·.start < length)).map (fun part =>
        { part with stop := min part.stop length }) }
  else piece

/-- The pictures that a text consists of, each with its cells, behind one that may still
grow. A code point without cells belongs to the picture before it. -/
def picturesFrom (joined : Bool) (last : Option CodePoint) (current : Option (Text × Nat)) :
    Text → List (Text × Nat)
  | [] => current.toList
  | c :: rest =>
    match current with
    | none =>
      picturesFrom false (if c.cells = 0 then last else some c) (some ([c], c.cells)) rest
    | some (text, width) =>
      let longer := text ++ [c]
      if joined then picturesFrom false last (some (longer, width)) rest
      else if c.isJoiner then picturesFrom true last (some (longer, width)) rest
      else if c.isEmojiSelector then
        if last.any (fun before => before.inRanges CodePoint.twoFormRanges) then
          picturesFrom false none (some (longer, width + 1)) rest
        else picturesFrom false last (some (longer, width)) rest
      else if c.cells = 0 then picturesFrom false last (some (longer, width)) rest
      else (text, width) :: picturesFrom false (some c) (some ([c], c.cells)) rest

/-- The pictures that fit into some cells. Half a picture is a blank. -/
def fitting (width : Nat) : List (Text × Nat) → Text
  | [] => []
  | (text, cells) :: pictures =>
    if width = 0 then []
    else if cells ≤ width then text ++ fitting (width - cells) pictures
    else Text.blanks 1

/-- The piece with an ellipsis at its end if it is too long. -/
def shorten (width : Nat) (piece : StyledText) : StyledText :=
  if Text.cells piece.text ≤ width then piece
  else
    let text := fitting (width - 1) (picturesFrom false none none piece.text) ++ "…"
    { text := text,
      parts := (piece.parts.filter (·.start < text.length)).map (fun part =>
        { part with stop := min part.stop text.length }) }

/-- The lines of a text in a column of a width. -/
def linesWithin (width : Nat) (styled : StyledText) : List StyledText :=
  styled.lines.flatMap (fun line =>
    let line := line.expandTabs
    (line.divide (breaksFrom width 0 0 (wordsOf line.text))).map (fun piece =>
      shorten width (cropEnd width piece)))

/-- How many cells the longest line of a text takes, as a column is made wide for it. Every
vertical separator ends a line here, and tabs take nothing. -/
def widest (styled : StyledText) : Nat :=
  (Text.splitLines styled.text).foldl (fun width line => max width (Text.cells line)) 0

/-! ## Styles -/

/-- Refuses a style whose words name a colour with a part that is no number. Other words
that spell no style are of no effect. -/
def checkStyle (words : Text) : Except NumeralFault Unit :=
  match Style.ofText words with
  | .error (.numeral fault) => .error fault
  | _ => .ok ()

/-- Refuses a text if one of its styles cannot be read. -/
def checkStyles (styled : StyledText) : Except NumeralFault Unit :=
  styled.parts.forM (fun part => checkStyle part.style)

end StyledText

end SchemaForge

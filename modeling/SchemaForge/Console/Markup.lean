import SchemaForge.Console.Parameters
import SchemaForge.Console.Emoji
import SchemaForge.Console.StyledText

/-!
# Markup

The texts of a report are written with marks in brackets: a mark begins a style or,
behind a slash, ends one. A mark that ends a style must name one that is open; a
lone slash ends the last one. Backslashes in front of a mark are halved, and an odd
number of them makes the mark a plain text. Names of emoji are replaced in what
stands between marks. A mark with an at sign asks for an action, whose parameters are
looked at where it ends.

`Markup.render` gives the text that is seen, without marks and without the controls
that would move the place of output, and the styles of its parts.
-/

namespace SchemaForge.Markup

/-- A mark in brackets. -/
structure Mark where
  /-- What stands before the first equals sign. -/
  name : Text
  /-- What stands behind it. -/
  parameters : Option Text
deriving DecidableEq, Inhabited

namespace Mark

/-- The mark of what stands in brackets. -/
def ofInside (inside : Text) : Mark :=
  let isSign (c : CodePoint) : Bool := c = '='
  let name := inside.takeWhile (fun c => !isSign c)
  let rest := inside.drop name.length
  ⟨name, if rest.isEmpty then none else some (rest.drop 1)⟩

/-- The mark as it is written. -/
def written (mark : Mark) : Text :=
  match mark.parameters with
  | none => Text.concat ["[", mark.name, "]"]
  | some parameters => Text.concat ["[", mark.name, "=", parameters, "]"]

/-- The words of the style that a mark spells. -/
def words (mark : Mark) : Text :=
  match mark.parameters with
  | none => mark.name
  | some parameters => Text.concat [mark.name, " ", parameters]

/-- Whether a mark asks for an action and not for a style. -/
def isAction (mark : Mark) : Bool := Text.startsWith mark.name "@"

end Mark

/-- Why a text with marks cannot be shown. -/
inductive Fault where
  /-- A mark ends what is not open. -/
  | notOpen (mark : Mark) (position : Nat)
  /-- A mark ends the last style where none is open. -/
  | nothingOpen (position : Nat)
  /-- A part of a colour is no number. -/
  | numeral (fault : NumeralFault)
  /-- The parameters of an action have no value. -/
  | action (parameters : Text) (fault : Parameters.Fault)
deriving DecidableEq

/-- The part of an action's parameters that must be a value. -/
def actionValue (parameters : Text) : Text :=
  Parameters.valueOf (Text.trim CodePoint.isSpace parameters)

/-- The wording of a fault. -/
def Fault.message : Fault → Text
  | notOpen mark position =>
    Text.concat ["closing tag '", mark.written, "' at position ", Text.ofNat position,
      " doesn't match any open tag"]
  | nothingOpen position =>
    Text.concat ["closing tag '[/]' at position ", Text.ofNat position,
      " has nothing to close"]
  | numeral fault => fault.message
  | action parameters fault =>
    let part : Text :=
      if fault.isOfForm then Text.concat [Text.quoted (actionValue parameters), " in "] else []
    Text.concat ["error parsing ", part, Text.quoted parameters, "; ", fault.message]

/-- A part of a text with marks. -/
inductive Piece where
  | plain (text : Text)
  | mark (mark : Mark) (position : Nat)
deriving DecidableEq, Inhabited

/-- A mark at the start of a text: how many backslashes stand before it, and what stands
in its brackets. -/
def markAt? (text : Text) : Option (Nat × Text) :=
  let backslashes := text.takeWhile (· = CodePoint.backslash)
  match text.drop backslashes.length with
  | bracket :: c :: rest =>
    let begins := c.isLower || c = '#' || c = '/' || c = '@'
    let isBracket (d : CodePoint) : Bool := d = '[' || d = ']'
    let body := rest.takeWhile (fun d => !isBracket d)
    if bracket = '[' && begins && rest[body.length]? = some (CodePoint.ofChar ']') then
      some (backslashes.length, c :: body)
    else none
  | _ => none

/-- A plain piece, unless it is empty. -/
def plainPiece (text : Text) : List Piece := if text.isEmpty then [] else [.plain text]

/-- The pieces of a mark behind some backslashes. Every second backslash is dropped. -/
def markPieces (position backslashes : Nat) (inside : Text) : List Piece :=
  let kept := plainPiece (List.replicate (backslashes / 2) .backslash)
  let piece : Piece :=
    if backslashes % 2 = 1 then .plain (Text.concat ["[", inside, "]"])
    else .mark (Mark.ofInside inside) (position + backslashes)
  kept ++ [piece]

/-- The pieces of a text from a position on, behind a plain beginning. -/
def piecesFrom (beginning : Text) (position : Nat) : Text → List Piece
  | [] => plainPiece beginning
  | c :: rest =>
    match markAt? (c :: rest) with
    | none => piecesFrom (beginning ++ [c]) (position + 1) rest
    | some (backslashes, inside) =>
      let length := backslashes + inside.length + 2
      plainPiece beginning ++ markPieces position backslashes inside ++
        piecesFrom [] (position + length) (rest.drop (length - 1))
termination_by text => text.length
decreasing_by
  all_goals simp only [List.length_cons, List.length_drop]
  all_goals omega

/-- The pieces of a text. -/
def pieces (text : Text) : List Piece := piecesFrom [] 0 text

/-- The controls that are not shown: they would ring, or move the place of output. -/
def isControl (c : CodePoint) : Bool := [7, 8, 11, 12, 13].contains c.val

/-- A plain piece as it is shown. A backslash before a bracket is dropped. -/
def renderPlain (text : Text) : Text :=
  let bare := Text.replace .backslash [CodePoint.ofChar '['] [CodePoint.ofChar '['] text
  (Emoji.replace bare).filter (fun c => !isControl c)

/-- The normal form of the name of a style. -/
def normalName (name : Text) : Except Fault Text :=
  (Style.normalForm name).mapError Fault.numeral

/-- A mark that is open from a place in the text on. -/
structure OpenMark where
  /-- The place. -/
  start : Nat
  /-- The mark, with its name in normal form. -/
  mark : Mark
deriving DecidableEq, Inhabited

/-- What is rendered so far. -/
structure Rendering where
  /-- The text. -/
  text : Text := []
  /-- The marks that are open, the last one first. -/
  opened : List OpenMark := []
  /-- The styles of parts that have ended, in the order of their ends. -/
  parts : List StyledPart := []
deriving DecidableEq, Inhabited

namespace Rendering

/-- The part from an open mark up to here. -/
def partOf (rendering : Rendering) (held : OpenMark) : StyledPart :=
  ⟨held.start, rendering.text.length, held.mark.words⟩

/-- Ends an open mark that has been taken out. -/
def close (rendering : Rendering) (held : OpenMark) : Except Fault Rendering :=
  if held.mark.isAction then
    match held.mark.parameters with
    | none | some [] => .ok rendering
    | some parameters =>
      match Parameters.checkValue (actionValue parameters) with
      | .ok () => .ok rendering
      | .error fault => .error (.action parameters fault)
  else .ok { rendering with parts := rendering.parts ++ [rendering.partOf held] }

/-- Opens a mark, or ends the one that it names. -/
def withMark (rendering : Rendering) (mark : Mark) (position : Nat) :
    Except Fault Rendering := do
  match Text.after? mark.name "/" with
  | none =>
    let held : OpenMark := ⟨rendering.text.length, { mark with name := ← normalName mark.name }⟩
    pure { rendering with opened := held :: rendering.opened }
  | some rest =>
    match Text.trim CodePoint.isSpace rest, rendering.opened with
    | [], [] => throw (.nothingOpen position)
    | [], held :: others => close { rendering with opened := others } held
    | name, opened =>
      let name ← normalName name
      let isMeant (held : OpenMark) : Bool := held.mark.name = name
      match opened.find? isMeant with
      | some held => close { rendering with opened := opened.eraseP isMeant } held
      | none => throw (.notOpen mark position)

/-- The rendering with one more piece. -/
def withPiece (rendering : Rendering) : Piece → Except Fault Rendering
  | .plain text => .ok { rendering with text := rendering.text ++ renderPlain text }
  | .mark mark position => rendering.withMark mark position

/-- The text with its styles, in the order of their starts. Marks that are still open end
with the text. -/
def finish (rendering : Rendering) : StyledText :=
  let parts := rendering.parts ++ rendering.opened.map rendering.partOf
  ⟨rendering.text, parts.reverse.mergeSort (fun left right => left.start ≤ right.start)⟩

end Rendering

/-- The text that is seen of a text with marks, with its styles. -/
def render (marked : Text) : Except Fault StyledText :=
  ((pieces marked).foldlM Rendering.withPiece {}).map Rendering.finish

/-- The lines of a text with marks as a console shows them. -/
def print (marked : Text) : Except Fault Text := do
  let lines := (← render marked).lines.map StyledText.expandTabs
  (lines.forM StyledText.checkStyles).mapError Fault.numeral
  pure (Text.join [.lineFeed] (lines.map StyledText.text))

end SchemaForge.Markup

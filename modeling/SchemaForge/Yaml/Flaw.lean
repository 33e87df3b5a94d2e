import SchemaForge.Text.Numeral
import SchemaForge.Text.Quoted

/-!
# Flaws of documents

What makes a text no document, or a document without meaning: a problem at a place,
and often what was being read, with the place where that began. A flaw is described
together with an excerpt of the line on which it stands. Of a long line only the part
around the place is shown.
-/

namespace SchemaForge.Yaml

/-- A place in a text. -/
structure Place where
  /-- How many code points stand before it. -/
  index : Nat := 0
  /-- Its line, counted from zero. -/
  line : Nat := 0
  /-- Its column, counted from zero. -/
  column : Nat := 0
deriving DecidableEq, Inhabited

/-- What was being read when a problem was met. -/
structure Activity where
  /-- What it is called. -/
  label : Text
  /-- Where it began, if that is worth telling. -/
  start : Option Place := none
deriving DecidableEq, Inhabited

/-- What makes a text no document. -/
inductive Flaw where
  /-- A code point that stands in no document. -/
  | character (c : CodePoint) (index : Nat)
  /-- A problem at a place. -/
  | problem (activity : Option Activity) (text : Text) (place : Place)
deriving DecidableEq

instance : Inhabited Flaw := ⟨.problem none [] {}⟩

/-- The line ends of documents. -/
def isBreak (c : CodePoint) : Bool :=
  c = .lineFeed || c = .carriageReturn || c.val = 0x85 || c.val = 0x2028 || c.val = 0x2029

namespace Place

/-- The place behind one more code point of the same line. -/
def next (place : Place) : Place :=
  { place with index := place.index + 1, column := place.column + 1 }

/-- The longest run on either side of a place that is shown whole. -/
def reach : Nat := 36

/-- How much of a longer run is shown. -/
def shownReach : Nat := 32

/-- What stands for the part of a line that is not shown. -/
def gap : Text := " ... "

/-- The part of a run beside a place that is shown, the code point next to the place first,
and what stands for the rest of the run. -/
def shown (run : Text) : Text × Text :=
  if reach < run.length then (run.take shownReach, gap) else (run, [])

/-- The line around a place, and a mark below the place. -/
def excerpt (text : Text) (place : Place) : Text :=
  let onLine := List.takeWhile (fun c => !isBreak c)
  let (before, head) := shown (onLine (text.take place.index).reverse)
  let (behind, tail) := shown (onLine (text.drop place.index))
  let margin : Text := List.replicate 4 (CodePoint.ofChar ' ')
  let lead := margin ++ head ++ before.reverse
  Text.concat [lead, behind, tail, [.lineFeed], lead.map (fun _ => CodePoint.ofChar ' '), "^"]

/-- A place in words, with its excerpt. -/
def describe (text : Text) (place : Place) : Text :=
  Text.concat ["  in \"<unicode string>\", line ", Text.ofNat (place.line + 1), ", column ",
    Text.ofNat (place.column + 1), ":", [.lineFeed], place.excerpt text]

end Place

namespace Flaw

/-- The lines about what was being read. Where it began is told only if the problem is not
at the same place. -/
def activityLines (text : Text) (place : Place) (activity : Activity) : List Text :=
  let isElsewhere (start : Place) : Bool :=
    start.line != place.line || start.column != place.column
  activity.label :: (activity.start.toList.filter isElsewhere).map (Place.describe text)

/-- A flaw of a text in words. -/
def describe (text : Text) : Flaw → Text
  | character c index =>
    Text.concat ["unacceptable character #x", Text.padded 16 4 c.val,
      ": special characters are not allowed", [.lineFeed],
      "  in \"<unicode string>\", position ", Text.ofNat index]
  | problem activity found place =>
    let lines := activity.toList.flatMap (activityLines text place)
    Text.join [.lineFeed] (lines ++ [found, place.describe text])

end Flaw

end SchemaForge.Yaml

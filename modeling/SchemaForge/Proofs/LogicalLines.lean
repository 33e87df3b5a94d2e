import SchemaForge.Proofs.QuotedReading

/-!
# Logical lines

The generated language is read in two stages. The first cuts a text into logical lines and knows
nothing of what they mean: literals between single or triple marks, comments, brackets that
carry a line over its end, backslashes that do the same, and the blanks that indent a line. This
is that first stage, for every text.

The reader takes one code point after another. It keeps the line it is in, the brackets that are
open and what it is in the middle of; a line is given out when it ends. It stops at a text that
no module can have: a literal that is left open at the end of its line or of the text, a bracket
that is closed by another one, a backslash in the middle of a line, a code point that no source
text has. A tab or a form feed is not taken for indentation, and line ends are line feeds.

What stands in front of a literal makes no difference to where it ends, so prefixes of literals
are code like any other.
-/

namespace SchemaForge

/-- A logical line: how many blanks stand in front of it, and what is on it. Comments are left
out. -/
structure LogicalLine where
  /-- The number of blanks in front. -/
  indent : Nat
  /-- The text behind them. -/
  text : Text
deriving DecidableEq

namespace LogicalLine

/-- What a reader is in the middle of. -/
inductive Mode where
  /-- A line of which only blanks have been read. -/
  | margin (blanks : Nat)
  /-- Code. Where two marks have just made an empty literal, a third one would make them the
  beginning of a long one. -/
  | code (closed : Option CodePoint)
  /-- A comment. -/
  | comment
  /-- A line end that a backslash takes away. -/
  | continued
  /-- A literal between single marks, and whether anything of it has been read. -/
  | short (mark : CodePoint) (started : Bool)
  /-- An escape in such a literal. -/
  | shortEscape (mark : CodePoint)
  /-- A literal between triple marks, behind some of its marks in a row. -/
  | long (mark : CodePoint) (marks : Nat)
  /-- An escape in such a literal. -/
  | longEscape (mark : CodePoint)
deriving DecidableEq

/-- Where a reader stands. -/
structure Reader where
  /-- The blanks in front of the line. -/
  indent : Nat := 0
  /-- What has been read of the line. -/
  text : Text := []
  /-- What closes the brackets that are open, from the innermost outwards. -/
  closers : List CodePoint := []
  /-- What is being read. -/
  mode : Mode := .margin 0
deriving DecidableEq

/-- A code point that source texts may have once their line ends are line feeds. -/
def isSource (c : CodePoint) : Bool :=
  decide (c.val ≠ 0) && decide (c ≠ .carriageReturn) && !c.isSurrogate

/-- What closes an opening bracket. -/
def closer? (c : CodePoint) : Option CodePoint :=
  if c = '(' then some ')'
  else if c = '[' then some ']'
  else if c = '\x7b' then some '\x7d'
  else none

/-- A closing bracket. -/
def isCloser (c : CodePoint) : Bool := c = ')' || c = ']' || c = '\x7d'

namespace Reader

/-- The reader in the middle of something else. -/
def turn (reader : Reader) (mode : Mode) : Reader := { reader with mode := mode }

/-- The reader with more on its line. -/
def put (reader : Reader) (text : Text) : Reader := { reader with text := reader.text ++ text }

/-- What the end of a line comes to. Inside brackets the line goes on; else it is given out,
unless there is nothing on it. -/
def endLine (reader : Reader) : Reader × List LogicalLine :=
  if reader.closers = [] then
    ({}, if reader.text = [] then [] else [⟨reader.indent, reader.text⟩])
  else ((reader.put [.lineFeed]).turn (.code none), [])

/-- The next code point of code. -/
def stepCode (reader : Reader) (closed : Option CodePoint) (c : CodePoint) :
    Option (Reader × List LogicalLine) :=
  if Quoted.isMark c then
    some ((reader.put [c]).turn (if closed = some c then .long c 0 else .short c false), [])
  else if c = '#' then some (reader.turn .comment, [])
  else if c = .backslash then some (reader.turn .continued, [])
  else if c = .lineFeed then some reader.endLine
  else
    let next := (reader.put [c]).turn (.code none)
    match closer? c with
    | some closer => some ({ next with closers := closer :: reader.closers }, [])
    | none =>
      if isCloser c then
        match reader.closers with
        | [] => none
        | closer :: others =>
          if c = closer then some ({ next with closers := others }, []) else none
      else some (next, [])

/-- The next code point, and the line that ends with it, if one does. -/
def step (reader : Reader) (c : CodePoint) : Option (Reader × List LogicalLine) :=
  if isSource c then
    match reader.mode with
    | .margin blanks =>
      if c = ' ' then some (reader.turn (.margin (blanks + 1)), [])
      else ({ reader with indent := blanks } : Reader).stepCode none c
    | .code closed => reader.stepCode closed c
    | .comment => if c = .lineFeed then some reader.endLine else some (reader, [])
    | .continued =>
      if c = .lineFeed then some ((reader.put " ").turn (.code none), []) else none
    | .short mark started =>
      if c = .lineFeed then none
      else
        let mode : Mode :=
          if c = .backslash then .shortEscape mark
          else if c = mark then .code (if started then none else some mark)
          else .short mark true
        some ((reader.put [c]).turn mode, [])
    | .shortEscape mark => some ((reader.put [c]).turn (.short mark true), [])
    | .long mark marks =>
      let mode : Mode :=
        if c = .backslash then .longEscape mark
        else if c = mark then if marks = 2 then .code none else .long mark (marks + 1)
        else .long mark 0
      some ((reader.put [c]).turn mode, [])
    | .longEscape mark => some ((reader.put [c]).turn (.long mark 0), [])
  else none

/-- What becomes of a reader behind a text, and the lines that end in it. -/
def run (reader : Reader) : Text → Option (Reader × List LogicalLine)
  | [] => some (reader, [])
  | c :: rest =>
    match reader.step c with
    | none => none
    | some (next, lines) => (run next rest).map (fun (last, more) => (last, lines ++ more))

end Reader

/-- The logical lines of a text. The last one may do without a line end. -/
def ofText (text : Text) : Option (List LogicalLine) :=
  match Reader.run {} (text ++ [.lineFeed]) with
  | some (reader, lines) => if reader = {} then some lines else none
  | none => none

/-! ## Steps -/

section Steps

variable {c mark : CodePoint} (source : isSource c = true) (reader : Reader)
include source

/-- In code each code point is taken as code. -/
theorem step_code (closed : Option CodePoint) :
    (reader.turn (.code closed)).step c = reader.stepCode closed c := by
  rw [Reader.step, if_pos source]
  rfl

/-- A literal between single marks ends with its mark, and not with its line. -/
theorem step_short (started : Bool) :
    (reader.turn (.short mark started)).step c =
      if c = .lineFeed then none
      else some ((reader.put [c]).turn (if c = .backslash then .shortEscape mark
        else if c = mark then .code (if started then none else some mark)
        else .short mark true), []) := by
  rw [Reader.step, if_pos source]
  rfl

/-- An escape takes the next code point into the literal. -/
theorem step_shortEscape :
    (reader.turn (.shortEscape mark)).step c =
      some ((reader.put [c]).turn (.short mark true), []) := by
  rw [Reader.step, if_pos source]
  rfl

/-- A literal between triple marks ends with the third of its marks in a row. -/
theorem step_long (marks : Nat) :
    (reader.turn (.long mark marks)).step c =
      some ((reader.put [c]).turn (if c = .backslash then .longEscape mark
        else if c = mark then if marks = 2 then .code none else .long mark (marks + 1)
        else .long mark 0), []) := by
  rw [Reader.step, if_pos source]
  rfl

/-- An escape takes the next code point into this literal too. -/
theorem step_longEscape :
    (reader.turn (.longEscape mark)).step c =
      some ((reader.put [c]).turn (.long mark 0), []) := by
  rw [Reader.step, if_pos source]
  rfl

end Steps

/-! ## Readers -/

variable {reader middle last : Reader} {text rest : Text} {lines more : List LogicalLine}

/-- A reader comes from one place to another behind a text, in which some lines end. -/
def Takes (reader : Reader) (text : Text) (last : Reader) (lines : List LogicalLine) : Prop :=
  reader.run text = some (last, lines)

/-- A reader stays where it is behind nothing. -/
theorem takes_nil (reader : Reader) : Takes reader [] reader [] := rfl

/-- One code point in front of more. -/
theorem Takes.cons {c : CodePoint} (first : reader.step c = some (middle, lines))
    (others : Takes middle rest last more) : Takes reader (c :: rest) last (lines ++ more) := by
  unfold Takes at others
  rw [Takes, Reader.run, first]
  simp only [others, Option.map_some]

/-- One text behind another. -/
theorem Takes.append (front : Takes reader text middle lines) (back : Takes middle rest last more) :
    Takes reader (text ++ rest) last (lines ++ more) := by
  induction text generalizing reader lines with
  | nil =>
    cases front
    exact back
  | cons c text inductionHypothesis =>
    unfold Takes at front
    rw [Reader.run] at front
    split at front
    · cases front
    · next next first found =>
      obtain ⟨⟨place, others⟩, further, same⟩ := Option.map_eq_some_iff.mp front
      cases same
      rw [List.cons_append, List.append_assoc]
      exact .cons found (inductionHypothesis further)

/-- A text whose lines end where it ends has these lines. -/
theorem ofText_of_takes (reads : Takes {} (text ++ [.lineFeed]) {} lines) :
    ofText text = some lines := by
  unfold Takes at reads
  rw [ofText, reads]
  rfl

end LogicalLine

end SchemaForge

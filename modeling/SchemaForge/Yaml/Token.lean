import SchemaForge.Text.Utf8
import SchemaForge.Yaml.Scalar

/-!
# Tokens of a configuration document

A document is cut into tokens that make its nesting explicit: indentation becomes
starts and ends of blocks, and a key is marked in front of the scalar or
collection that turns out to be one when its colon is found. A key without a
question mark must stand on one line, within 1024 code points of its colon.

The scanner is a state transformer that fails on any text that is no document.
It reads no further than it is asked to: `nextToken` reads on until the next token
is known for good, which for one that may turn out to be a key means until its
colon is found or ruled out. Every loop is bounded by the number of code points
that are left.
-/

namespace SchemaForge.Yaml

/-- A line about the document as a whole. -/
inductive Directive where
  /-- The version of the language, by its first number. -/
  | version (major : Int)
  /-- A handle for the beginnings of tag names. -/
  | handle (name lead : Text)
  /-- Any other. -/
  | other
deriving DecidableEq, Inhabited

/-- The tokens of a document. -/
inductive Token where
  | directive (line : Directive)
  | documentStart
  | documentEnd
  | streamEnd
  | blockSequenceStart
  | blockMappingStart
  | blockEnd
  | flowSequenceStart
  | flowSequenceEnd
  | flowMappingStart
  | flowMappingEnd
  | blockEntry
  | flowEntry
  | key
  | value
  | alias (name : Text)
  | anchor (name : Text)
  | tag (handle : Option Text) (name : Text)
  | scalar (text : Text) (plain : Bool)
deriving DecidableEq, Inhabited

namespace Token

/-- What a token is called. -/
def label : Token → Text
  | directive _ => "<directive>"
  | documentStart => "<document start>"
  | documentEnd => "<document end>"
  | streamEnd => "<stream end>"
  | blockSequenceStart => "<block sequence start>"
  | blockMappingStart => "<block mapping start>"
  | blockEnd => "<block end>"
  | flowSequenceStart => "["
  | flowSequenceEnd => "]"
  | flowMappingStart => "\x7b"
  | flowMappingEnd => "\x7d"
  | blockEntry => "-"
  | flowEntry => ","
  | key => "?"
  | value => ":"
  | .alias _ => "<alias>"
  | anchor _ => "<anchor>"
  | tag .. => "<tag>"
  | scalar .. => "<scalar>"

end Token

/-- The place of a scalar or collection that may turn out to be a key. -/
structure PendingKey extends Place where
  /-- How many tokens of the text stand before it. -/
  tokenNumber : Nat
  /-- Nothing but a key may stand there. -/
  required : Bool

/-- The state of a scan at a place. -/
structure Scanner extends Place where
  /-- The code points left. -/
  rest : Text
  /-- How many flow collections are open. -/
  flowLevel : Nat := 0
  /-- The column of the current block, minus one outside all blocks. -/
  indent : Int := -1
  /-- The columns of the blocks around it. -/
  outerIndents : List Int := []
  /-- Whether a key may start here. -/
  allowKey : Bool := true
  /-- The pending keys, by flow level. -/
  pending : List (Nat × PendingKey) := []
  /-- How many tokens have been taken. -/
  taken : Nat := 0
  /-- The tokens that have been read and not taken, and where they start. -/
  tokens : List (Token × Place) := []
  /-- Whether the end was reached. -/
  ended : Bool := false

/-- A step of a scan; it fails where the text is no document. -/
abbrev Scan (α : Type) := StateT Scanner (Except Fault) α

/-- A blank, a tab or a line end. -/
def isBlankOrBreak (c : CodePoint) : Bool := c = ' ' || c = .tab || isBreak c

/-- The code points that a document may hold. -/
def isAllowed (c : CodePoint) : Bool :=
  c = .tab || c = .lineFeed || c = .carriageReturn || (0x20 ≤ c.val && c.val ≤ 0x7E) ||
    c.val = 0x85 || (0xA0 ≤ c.val && c.val ≤ 0xD7FF) || (0xE000 ≤ c.val && c.val ≤ 0xFFFD) ||
    0x10000 ≤ c.val

/-- One of the characters of a string. -/
def isOneOf (characters : String) (c : CodePoint) : Bool :=
  characters.toList.any (fun d => decide (c = CodePoint.ofChar d))

namespace Scan

/-- The place of the scan. -/
def place : Scan Place := return (← get).toPlace

/-- The bound of a loop is used up. The bounds are chosen so that no text brings it about. -/
def exhausted {α : Type} : Scan α := throw (.malformed default)

/-- The text is no document. -/
def refuse {α : Type} (problem : Text) (activity : Option Activity) : Scan α := do
  throw (.malformed (.problem activity problem (← place)))

/-- The code point some places ahead, if the text reaches that far. -/
def peekAt (ahead : Nat) : Scan (Option CodePoint) := return (← get).rest[ahead]?

/-- The next code point. -/
def peek : Scan (Option CodePoint) := peekAt 0

/-- The state behind one more code point. -/
def stepOver (scanner : Scanner) : Scanner :=
  match scanner.rest with
  | [] => scanner
  | c :: rest =>
    let endsLine :=
      isBreak c && !(c = .carriageReturn && rest.head?.any (fun d => decide (d = .lineFeed)))
    let moved := { scanner with rest := rest, index := scanner.index + 1 }
    if endsLine then { moved with line := scanner.line + 1, column := 0 }
    else if c.val = 0xFEFF then moved
    else { moved with column := scanner.column + 1 }

/-- Passes some code points. -/
def forward : Nat → Scan Unit
  | 0 => pure ()
  | count + 1 => do
    modify stepOver
    forward count

/-- Passes the code points of a class and gives them. -/
def takeWhile (belongs : CodePoint → Bool) : Scan Text := do
  let run := (← get).rest.takeWhile belongs
  forward run.length
  pure run

/-- Whether the end or a code point of a class is some places ahead. -/
def endsAt (ahead : Nat) (belongs : CodePoint → Bool) : Scan Bool := do
  match ← peekAt ahead with
  | none => pure true
  | some c => pure (belongs c)

/-- Whether a code point of a class is next. -/
def nextIs (belongs : CodePoint → Bool) : Scan Bool := return (← peek).any belongs

/-- The quoted form of the code point some places ahead. The end of the text counts as zero. -/
def quotedAt (ahead : Nat) : Scan Text :=
  return Text.quoted [(← peekAt ahead).getD (CodePoint.ofNat 0)]

/-- The text is no document, for something else stands some places ahead of here. -/
def refuseAt {α : Type} (ahead : Nat) (expected : Text) (activity : Activity) : Scan α := do
  let found ← quotedAt ahead
  refuse (Text.concat ["expected ", expected, ", but found ", found]) activity

/-- The text is no document, for something else stands here. -/
def refuseHere {α : Type} (expected : Text) (activity : Activity) : Scan α :=
  refuseAt 0 expected activity

/-- Passes a line end and gives what it counts as: a line feed, or itself. -/
def lineBreak : Scan Text := do
  match ← peek with
  | none => pure []
  | some c =>
    if c = .carriageReturn || c = .lineFeed || c.val = 0x85 then
      let pair := c = .carriageReturn && (← peekAt 1).any (fun d => decide (d = .lineFeed))
      forward (if pair then 2 else 1)
      pure [.lineFeed]
    else if c.val = 0x2028 || c.val = 0x2029 then
      forward 1
      pure [c]
    else pure []

/-- Whether a document marker stands here, wherever on its line. -/
def atMarker : Scan Bool := do
  let lead := (← get).rest.take 3
  if lead = ("---" : Text) || lead = ("..." : Text) then endsAt 3 isBlankOrBreak else pure false

/-- Adds a token that starts at a place. -/
def emit (token : Token) (start : Place) : Scan Unit :=
  modify (fun scanner => { scanner with tokens := scanner.tokens ++ [(token, start)] })

/-- Says whether a key may start next. -/
def allowKey (allowed : Bool) : Scan Unit :=
  modify (fun scanner => { scanner with allowKey := allowed })

/-! ## Keys and indentation -/

/-- The colon behind a key is missing. -/
def refuseKey {α : Type} (key : PendingKey) : Scan α :=
  refuse "could not find expected ':'" (some ⟨"while scanning a simple key", key.toPlace⟩)

/-- Forgets the pending key of the current flow level. It must not be required. -/
def dropPending : Scan Unit := do
  let scanner ← get
  match scanner.pending.find? (fun held => held.1 == scanner.flowLevel) with
  | none => pure ()
  | some (_, key) =>
    if key.required then refuseKey key
    else
      set { scanner with
        pending := scanner.pending.filter (fun held => held.1 != scanner.flowLevel) }

/-- Forgets pending keys that are on an earlier line or too far back. None of them may
be required. -/
def dropStale : Scan Unit := do
  let scanner ← get
  let isStale (held : Nat × PendingKey) : Bool :=
    held.2.line != scanner.line || decide (1024 < scanner.index - held.2.index)
  match scanner.pending.find? (fun held => isStale held && held.2.required) with
  | some (_, key) => refuseKey key
  | none => set { scanner with pending := scanner.pending.filter (fun held => !isStale held) }

/-- Remembers that what starts here may turn out to be a key. -/
def savePending : Scan Unit := do
  let scanner ← get
  if scanner.allowKey then
    dropPending
    let required := scanner.flowLevel == 0 && scanner.indent == Int.ofNat scanner.column
    let key : PendingKey :=
      ⟨scanner.toPlace, scanner.taken + scanner.tokens.length, required⟩
    modify (fun moved => { moved with pending := moved.pending ++ [(moved.flowLevel, key)] })

/-- Leaves the blocks that are indented further than a column. -/
def leaveBlocksUpTo (column : Int) : Nat → Scan Unit
  | 0 => pure ()
  | bound + 1 => do
    let scanner ← get
    if column < scanner.indent then
      set { scanner with
        indent := scanner.outerIndents.headD (-1),
        outerIndents := scanner.outerIndents.drop 1,
        tokens := scanner.tokens ++ [(Token.blockEnd, scanner.toPlace)] }
      leaveBlocksUpTo column bound

/-- Leaves the blocks that are indented further than a column, outside of flow. -/
def leaveBlocks (column : Int) : Scan Unit := do
  let scanner ← get
  if scanner.flowLevel == 0 then leaveBlocksUpTo column (scanner.outerIndents.length + 1)

/-- Enters a block at a column, if that is further than the current one. -/
def enterBlock (column : Nat) : Scan Bool := do
  let scanner ← get
  if scanner.indent < Int.ofNat column then
    set { scanner with
      indent := Int.ofNat column, outerIndents := scanner.indent :: scanner.outerIndents }
    pure true
  else pure false

/-! ## Scalars -/

/-- What one letter behind a backslash stands for. -/
def escapeMeaning? (c : CodePoint) : Option Nat :=
  if c = '0' then some 0
  else if c = 'a' then some 0x07
  else if c = 'b' then some 0x08
  else if c = 't' || c = .tab then some 0x09
  else if c = 'n' then some 0x0A
  else if c = 'v' then some 0x0B
  else if c = 'f' then some 0x0C
  else if c = 'r' then some 0x0D
  else if c = 'e' then some 0x1B
  else if c = ' ' then some 0x20
  else if c = .quote then some 0x22
  else if c = .backslash then some 0x5C
  else if c = '/' then some 0x2F
  else if c = 'N' then some 0x85
  else if c = '_' then some 0xA0
  else if c = 'L' then some 0x2028
  else if c = 'P' then some 0x2029
  else none

/-- How many hexadecimal digits follow a letter behind a backslash. -/
def escapeLength? (c : CodePoint) : Option Nat :=
  if c = 'x' then some 2 else if c = 'u' then some 4 else if c = 'U' then some 8 else none

/-- A quoted scalar as what is being read. -/
def readingQuoted (start : Place) : Activity := ⟨"while scanning a quoted scalar", start⟩

/-- A quoted scalar with escapes as what is being read. -/
def readingEscape (start : Place) : Activity := ⟨"while scanning a double-quoted scalar", start⟩

/-- The empty lines inside a quoted scalar. A document marker must not stand on one. -/
def quotedBreaks (start : Place) : Nat → Scan Text
  | 0 => exhausted
  | bound + 1 => do
    if ← atMarker then refuse "found unexpected document separator" (readingQuoted start)
    else
      let _ ← takeWhile (fun c => c = ' ' || c = .tab)
      if ← nextIs isBreak then
        let first ← lineBreak
        let others ← quotedBreaks start bound
        pure (first ++ others)
      else pure []

/-- The hexadecimal digits that stand here, up to a number of them. -/
def hexDigits (most : Nat) : Scan Text :=
  return ((← get).rest.take most).takeWhile CodePoint.isHexDigit

/-- The code point of an escape by number. -/
def numericEscape (start : Place) (length : Nat) : Scan Text := do
  let digits ← hexDigits length
  if digits.length = length then
    let number := Text.toNat 16 digits
    if number < 0x110000 then
      forward length
      pure [CodePoint.ofNat number]
    else if number < 0x80000000 then throw .noCodePoint
    else throw .hugeCodePoint
  else
    refuseAt digits.length
      (Text.concat ["escape sequence of ", Text.ofNat length, " hexadecimal numbers"])
      (readingEscape start)

/-- The code points of a quoted scalar up to the next white space or its end. -/
def quotedWord (start : Place) (double : Bool) : Nat → Scan Text
  | 0 => exhausted
  | bound + 1 => do
    let plain ← takeWhile (fun c =>
      !(c = .apostrophe || c = .quote || c = .backslash || isBlankOrBreak c))
    match ← peek with
    | none => pure plain
    | some c =>
      let goOn (piece : Text) : Scan Text := do
        let others ← quotedWord start double bound
        pure (plain ++ piece ++ others)
      if !double && c = .apostrophe &&
          (← peekAt 1).any (fun d => decide (d = .apostrophe)) then
        forward 2
        goOn [.apostrophe]
      else if (double && c = .apostrophe) || (!double && (c = .quote || c = .backslash)) then
        forward 1
        goOn [c]
      else if double && c = .backslash then
        forward 1
        let mark := (← peek).getD (CodePoint.ofNat 0)
        match escapeMeaning? mark, escapeLength? mark with
        | some number, _ =>
          forward 1
          goOn [CodePoint.ofNat number]
        | none, some length =>
          forward 1
          goOn (← numericEscape start length)
        | none, none =>
          if isBreak mark then
            let _ ← lineBreak
            goOn (← quotedBreaks start (bound + 1))
          else
            let found ← quotedAt 0
            refuse ("found unknown escape character " ++ found) (readingEscape start)
      else pure plain

/-- The white space inside a quoted scalar. One line end is a blank, more are the line
ends behind the first. -/
def quotedSpace (start : Place) (bound : Nat) : Scan Text := do
  let blanks ← takeWhile (fun c => c = ' ' || c = .tab)
  match ← peek with
  | none => refuse "found unexpected end of stream" (readingQuoted start)
  | some c =>
    if isBreak c then
      let first ← lineBreak
      let others ← quotedBreaks start bound
      if first ≠ [.lineFeed] then pure (first ++ others)
      else if others.isEmpty then pure [CodePoint.ofChar ' ']
      else pure others
    else pure blanks

/-- The rest of a quoted scalar up to its closing quote. -/
def quotedRest (start : Place) (quote : CodePoint) : Nat → Scan Text
  | 0 => exhausted
  | bound + 1 => do
    if (← peek).any (fun c => decide (c = quote)) then
      forward 1
      pure []
    else
      let space ← quotedSpace start (bound + 1)
      let word ← quotedWord start (quote = .quote) (bound + 1)
      let others ← quotedRest start quote bound
      pure (space ++ word ++ others)

/-- A quoted scalar from its opening quote on. -/
def quotedScalar (quote : CodePoint) : Scan Text := do
  let start ← place
  let bound := (← get).rest.length + 1
  forward 1
  let word ← quotedWord start (quote = .quote) bound
  let others ← quotedRest start quote bound
  pure (word ++ others)

/-- The white space behind a word of a plain scalar: `none` at a document marker, else
what it counts as. -/
def plainBreaks : Nat → Scan (Option Text)
  | 0 => exhausted
  | bound + 1 => do
    let _ ← takeWhile (fun c => decide (c = (CodePoint.ofChar ' ')))
    if ← nextIs isBreak then
      let first ← lineBreak
      if ← atMarker then pure none
      else
        let others ← plainBreaks bound
        pure (others.map (fun others => first ++ others))
    else pure (some [])

/-- The white space behind a word of a plain scalar, empty where the scalar ends. -/
def plainSpace (bound : Nat) : Scan Text := do
  let blanks ← takeWhile (fun c => decide (c = (CodePoint.ofChar ' ')))
  if ← nextIs isBreak then
    let first ← lineBreak
    allowKey true
    if ← atMarker then pure []
    else
      match ← plainBreaks bound with
      | none => pure []
      | some others =>
        if first ≠ [.lineFeed] then pure (first ++ others)
        else if others.isEmpty then pure [CodePoint.ofChar ' ']
        else pure others
  else pure blanks

/-- How many code points the next word of a plain scalar has. -/
def plainWordLength (flow : Bool) : Text → Nat
  | [] => 0
  | c :: rest =>
    let colonEnds : Bool :=
      c = ':' &&
        (match rest.head? with
          | none => true
          | some d => isBlankOrBreak d || (flow && isOneOf ",[]\x7b\x7d" d))
    if isBlankOrBreak c || colonEnds || (flow && isOneOf ",?[]\x7b\x7d" c) then 0
    else plainWordLength flow rest + 1

/-- The words of a plain scalar from here on, behind the given white space. -/
def plainWords (indent : Int) (space : Text) : Nat → Scan Text
  | 0 => exhausted
  | bound + 1 => do
    let scanner ← get
    let length := plainWordLength (scanner.flowLevel != 0) scanner.rest
    if (← nextIs (fun c => decide (c = '#'))) || length = 0 then pure []
    else
      allowKey false
      let word := scanner.rest.take length
      forward length
      let next ← plainSpace (bound + 1)
      let moved ← get
      let ends :=
        next.isEmpty || moved.rest.head?.any (fun c => decide (c = CodePoint.ofChar '#')) ||
          (moved.flowLevel == 0 && decide (Int.ofNat moved.column < indent))
      if ends then pure (space ++ word)
      else
        let others ← plainWords indent next bound
        pure (space ++ word ++ others)

/-- A scalar without quotes. -/
def plainScalar : Scan Text := do
  let scanner ← get
  plainWords (scanner.indent + 1) [] (scanner.rest.length + 1)

/-- How a block scalar ends: without line ends, with one, or with all of them. -/
inductive Chomping where
  | strip | clip | keep
deriving DecidableEq

/-- A block scalar as what is being read. -/
def readingBlock (start : Place) : Activity := ⟨"while scanning a block scalar", start⟩

/-- The signs behind the start of a block scalar: how it ends, and its indentation. -/
def blockHeader (start : Place) : Scan (Chomping × Option Nat) := do
  let chomping : Scan (Option Chomping) := do
    if ← nextIs (fun c => decide (c = '+')) then forward 1; pure (some .keep)
    else if ← nextIs (fun c => decide (c = '-')) then forward 1; pure (some .strip)
    else pure none
  let increment : Scan (Option Nat) := do
    match ← peek with
    | some c =>
      if c = '0' then
        refuse "expected indentation indicator in the range 1-9, but found 0" (readingBlock start)
      else if c.isDigit then forward 1; pure (some c.hexValue)
      else pure none
    | none => pure none
  let first ← chomping
  let deeper ← increment
  let last ← if first.isNone && deeper.isSome then chomping else pure none
  if ← endsAt 0 (fun c => c = ' ' || isBreak c) then
    pure ((first <|> last).getD .clip, deeper)
  else refuseHere "chomping or indentation indicators" (readingBlock start)

/-- The rest of a line that holds nothing but a comment. -/
def ignoredLine (activity : Activity) : Scan Unit := do
  let _ ← takeWhile (fun c => decide (c = (CodePoint.ofChar ' ')))
  if ← nextIs (fun c => decide (c = '#')) then
    let _ ← takeWhile (fun c => !isBreak c)
  if ← endsAt 0 isBreak then
    let _ ← lineBreak
  else refuseHere "a comment or a line break" activity

/-- The empty lines before a block scalar, and the greatest indentation among them. -/
def blockIndentation : Nat → Scan (Text × Nat)
  | 0 => exhausted
  | bound + 1 => do
    if ← nextIs (fun c => decide (c = (CodePoint.ofChar ' '))) then
      forward 1
      let column := (← get).column
      let (breaks, deepest) ← blockIndentation bound
      pure (breaks, max column deepest)
    else if ← nextIs isBreak then
      let first ← lineBreak
      let (breaks, deepest) ← blockIndentation bound
      pure (first ++ breaks, deepest)
    else pure ([], 0)

/-- Passes blanks up to a column. -/
def indentTo (column : Nat) : Nat → Scan Unit
  | 0 => pure ()
  | bound + 1 => do
    if (← get).column < column && (← nextIs (fun c => decide (c = (CodePoint.ofChar ' ')))) then
      forward 1
      indentTo column bound

/-- The empty lines inside a block scalar. -/
def blockBreaks (column : Nat) : Nat → Scan Text
  | 0 => exhausted
  | bound + 1 => do
    indentTo column (bound + 1)
    if ← nextIs isBreak then
      let first ← lineBreak
      let others ← blockBreaks column bound
      pure (first ++ others)
    else pure []

/-- The lines of a block scalar from here on, behind the given empty lines; with the
last line end and the empty lines behind it. -/
def blockLines (folded : Bool) (column : Nat) (breaks : Text) : Nat → Scan (Text × Text × Text)
  | 0 => exhausted
  | bound + 1 => do
    let scanner ← get
    if scanner.column = column && !scanner.rest.isEmpty then
      let leads ← nextIs (fun c => !(c = ' ' || c = .tab))
      let line ← takeWhile (fun c => !isBreak c)
      let ended ← lineBreak
      let next ← blockBreaks column (bound + 1)
      let moved ← get
      if moved.column = column && !moved.rest.isEmpty then
        let goesOn ← nextIs (fun c => !(c = ' ' || c = .tab))
        let glue : Text :=
          if folded && ended = [.lineFeed] && leads && goesOn then
            if next.isEmpty then [CodePoint.ofChar ' '] else []
          else ended
        let (others, last, trailing) ← blockLines folded column next bound
        pure (breaks ++ line ++ glue ++ others, last, trailing)
      else pure (breaks ++ line, ended, next)
    else pure ([], [], breaks)

/-- A block scalar from its sign on. -/
def blockScalar (folded : Bool) : Scan Text := do
  let start ← place
  let bound := (← get).rest.length + 2
  forward 1
  let (chomping, increment) ← blockHeader start
  ignoredLine (readingBlock start)
  let least := max 1 ((← get).indent + 1).toNat
  let (breaks, column) ←
    match increment with
    | none => do
      let (breaks, deepest) ← blockIndentation bound
      pure (breaks, max least deepest)
    | some deeper => do
      let column := least + deeper - 1
      let breaks ← blockBreaks column bound
      pure (breaks, column)
  let (text, last, trailing) ← blockLines folded column breaks bound
  match chomping with
  | .strip => pure text
  | .clip => pure (text ++ last)
  | .keep => pure (text ++ last ++ trailing)

/-- A letter, a digit, a dash or an underscore. -/
def isWordPart (c : CodePoint) : Bool :=
  c.isDigit || c.isUpper || c.isLower || c = '-' || c = '_'

/-- What names and directives are made of. -/
def wordPart : Text := "alphabetic or numeric character"

/-- The name behind the sign of an anchor or an alias. -/
def anchorName (kind : Text) : Scan Text := do
  let activity : Activity := ⟨"while scanning an " ++ kind, ← place⟩
  forward 1
  let name ← takeWhile isWordPart
  if name.isEmpty then refuseHere wordPart activity
  else if ← endsAt 0 (fun c => isBlankOrBreak c || isOneOf "?:,]\x7d%@\x60" c) then pure name
  else refuseHere wordPart activity

/-! ## Tags and directives -/

/-- A blank or a line end. -/
def isSpaceOrBreak (c : CodePoint) : Bool := c = ' ' || isBreak c

/-- The code points of a tag name. -/
def isTagPart (c : CodePoint) : Bool := isWordPart c || isOneOf "-;/?:@&=+$,_.!~*'()[]%" c

/-- A tag or a directive as what is being read, in the words for its parts. -/
structure Named where
  /-- What it is called. -/
  kind : Text
  /-- Where it begins. -/
  start : Place

/-- What is being read, where its own form counts. -/
def Named.scanning (named : Named) : Activity :=
  ⟨"while scanning a " ++ named.kind, named.start⟩

/-- What is being read, where its place in the document counts. -/
def Named.parsing (named : Named) : Activity :=
  ⟨"while parsing a " ++ named.kind, named.start⟩

/-- The bytes of escapes by number that stand here, one behind the other. -/
def escapedBytes (named : Named) : Nat → Scan (List UInt8)
  | 0 => exhausted
  | bound + 1 => do
    if ← nextIs (fun c => decide (c = '%')) then
      forward 1
      let digits ← hexDigits 2
      if digits.length = 2 then
        forward 2
        let others ← escapedBytes named bound
        pure (UInt8.ofNat (Text.toNat 16 digits) :: others)
      else refuseAt digits.length "URI escape sequence of 2 hexadecimal numbers" named.scanning
    else pure []

/-- A tag name, or what tag names begin with. Escapes by number stand for the bytes of
code points. -/
def tagParts (named : Named) : Nat → Scan Text
  | 0 => exhausted
  | bound + 1 => do
    let plain ← takeWhile (fun c => isTagPart c && !(c = '%'))
    if ← nextIs (fun c => decide (c = '%')) then
      let start ← place
      match Utf8.decode (← escapedBytes named (bound + 1)) with
      | .error fault => throw (.malformed (.problem (some named.scanning) fault.message start))
      | .ok escaped =>
        let others ← tagParts named bound
        pure (plain ++ escaped ++ others)
    else pure plain

/-- A tag name, which must begin here. -/
def tagName (named : Named) : Scan Text := do
  if ← nextIs isTagPart then tagParts named ((← get).rest.length + 1)
  else refuseHere "URI" named.parsing

/-- The handle of a tag: one exclamation mark before a blank, or two with a word
between them. -/
def tagHandle (named : Named) : Scan Text := do
  if ← nextIs (fun c => decide (c = '!')) then
    forward 1
    if ← nextIs (fun c => decide (c = (CodePoint.ofChar ' '))) then pure "!"
    else
      let word ← takeWhile isWordPart
      if ← nextIs (fun c => decide (c = '!')) then
        forward 1
        pure (Text.concat ["!", word, "!"])
      else refuseHere "'!'" named.scanning
  else refuseHere "'!'" named.scanning

/-- A tag: a full name in angle brackets, a lone exclamation mark, or a name behind a
handle. -/
def tagToken : Scan Token := do
  let named : Named := ⟨"tag", ← place⟩
  let behind := (← get).rest.drop 1
  let token ←
    if behind.head?.any (fun c => decide (c = CodePoint.ofChar '<')) then do
      forward 2
      let name ← tagName named
      if ← nextIs (fun c => decide (c = '>')) then
        forward 1
        pure (Token.tag none name)
      else refuseHere "'>'" named.parsing
    else if ← endsAt 1 isBlankOrBreak then do
      forward 1
      pure (Token.tag none "!")
    else do
      let word := behind.takeWhile (fun c => !isSpaceOrBreak c)
      let handle ←
        if Text.contains (CodePoint.ofChar '!') word then tagHandle named
        else do
          forward 1
          pure "!"
      let name ← tagName named
      pure (Token.tag (some handle) name)
  if ← endsAt 0 isSpaceOrBreak then pure token else refuseHere "' '" named.scanning

/-- Passes blanks. -/
def passBlanks : Scan Unit := do
  let _ ← takeWhile (fun c => decide (c = (CodePoint.ofChar ' ')))

/-- A number of a version. -/
def versionNumber (named : Named) : Scan Int := do
  let digits ← takeWhile CodePoint.isDigit
  if digits.isEmpty then refuseHere "a digit" named.scanning
  else
    match Numeral.readWhole 10 digits with
    | .ok number => pure number
    | .error fault => throw (.numeral fault)

/-- A version: two numbers with a point between them. -/
def versionDirective (named : Named) : Scan Directive := do
  passBlanks
  let major ← versionNumber named
  if ← nextIs (fun c => decide (c = '.')) then
    forward 1
    let _ ← versionNumber named
    if ← endsAt 0 isSpaceOrBreak then pure (.version major)
    else refuseHere "a digit or ' '" named.scanning
  else refuseHere "a digit or '.'" named.scanning

/-- A handle, and what the names of its tags begin with. -/
def handleDirective (named : Named) : Scan Directive := do
  passBlanks
  let handle ← tagHandle named
  if ← nextIs (fun c => decide (c = (CodePoint.ofChar ' '))) then
    passBlanks
    let lead ← tagName named
    if ← endsAt 0 isSpaceOrBreak then pure (.handle handle lead)
    else refuseHere "' '" named.scanning
  else refuseHere "' '" named.scanning

/-- A directive by its name, up to the end of its line. -/
def directive : Scan Directive := do
  let named : Named := ⟨"directive", ← place⟩
  forward 1
  let name ← takeWhile isWordPart
  if name.isEmpty then refuseHere wordPart named.scanning
  else if ← endsAt 0 isSpaceOrBreak then
    let line ←
      if name = ("YAML" : Text) then versionDirective named
      else if name = ("TAG" : Text) then handleDirective named
      else do
        let _ ← takeWhile (fun c => !isBreak c)
        pure Directive.other
    ignoredLine named.scanning
    pure line
  else refuseHere wordPart named.scanning

/-! ## Tokens -/

/-- Passes white space, comments and line ends before a token. -/
def toNextToken : Nat → Scan Unit
  | 0 => exhausted
  | bound + 1 => do
    let _ ← takeWhile (fun c => decide (c = (CodePoint.ofChar ' ')))
    if ← nextIs (fun c => decide (c = '#')) then
      let _ ← takeWhile (fun c => !isBreak c)
    if ← nextIs isBreak then
      let _ ← lineBreak
      if (← get).flowLevel == 0 then allowKey true
      toNextToken bound

/-- The end of the text. -/
def endStream : Scan Unit := do
  leaveBlocks (-1)
  dropPending
  modify (fun scanner => { scanner with allowKey := false, pending := [], ended := true })
  emit .streamEnd (← place)

/-- Passes some code points that are a token. -/
def sign (token : Token) (length : Nat) : Scan Unit := do
  let start ← place
  forward length
  emit token start

/-- A directive. -/
def directiveLine : Scan Unit := do
  leaveBlocks (-1)
  dropPending
  allowKey false
  let start ← place
  let line ← directive
  emit (.directive line) start

/-- A document marker. -/
def marker (token : Token) : Scan Unit := do
  leaveBlocks (-1)
  dropPending
  allowKey false
  sign token 3

/-- The start of a flow collection. -/
def openFlow (token : Token) : Scan Unit := do
  savePending
  modify (fun scanner => { scanner with flowLevel := scanner.flowLevel + 1, allowKey := true })
  sign token 1

/-- The end of a flow collection. -/
def closeFlow (token : Token) : Scan Unit := do
  dropPending
  modify (fun scanner => { scanner with flowLevel := scanner.flowLevel - 1, allowKey := false })
  sign token 1

/-- The sign between items of a flow collection. -/
def flowEntry : Scan Unit := do
  allowKey true
  dropPending
  sign .flowEntry 1

/-- Enters a block at this place, if that is further than the current one. Outside of flow
a block may start only where a key may. -/
def startBlock (token : Token) (parts : Text) : Scan Unit := do
  let scanner ← get
  if scanner.flowLevel == 0 then
    if !scanner.allowKey then refuse (parts ++ " are not allowed here") none
    else if ← enterBlock scanner.column then emit token scanner.toPlace

/-- The dash before an item of a block. -/
def blockEntry : Scan Unit := do
  startBlock .blockSequenceStart "sequence entries"
  allowKey true
  dropPending
  sign .blockEntry 1

/-- The question mark before a key. -/
def explicitKey : Scan Unit := do
  startBlock .blockMappingStart "mapping keys"
  allowKey ((← get).flowLevel == 0)
  dropPending
  sign .key 1

/-- Puts a token in front of those from a number on. -/
def insertToken (number : Nat) (token : Token) (start : Place) : Scan Unit :=
  modify (fun scanner =>
    let before := number - scanner.taken
    { scanner with
      tokens := scanner.tokens.take before ++ (token, start) :: scanner.tokens.drop before })

/-- The colon behind a key. -/
def keyValue : Scan Unit := do
  let scanner ← get
  match scanner.pending.find? (fun held => held.1 == scanner.flowLevel) with
  | some (_, key) =>
    set { scanner with
      pending := scanner.pending.filter (fun held => held.1 != scanner.flowLevel) }
    insertToken key.tokenNumber .key key.toPlace
    if scanner.flowLevel == 0 then
      if ← enterBlock key.column then
        insertToken key.tokenNumber .blockMappingStart key.toPlace
    allowKey false
  | none =>
    startBlock .blockMappingStart "mapping values"
    allowKey (scanner.flowLevel == 0)
    dropPending
  sign .value 1

/-- A token that may turn out to be a key. -/
def keyLike (token : Scan Token) : Scan Unit := do
  savePending
  allowKey false
  let start ← place
  emit (← token) start

/-- A block scalar, which is never a key. -/
def blockToken (folded : Bool) : Scan Unit := do
  allowKey true
  dropPending
  let start ← place
  emit (.scalar (← blockScalar folded) false) start

/-- Whether a plain scalar may start with a code point, given that white space or the
end follows it or not. -/
def startsPlain (flow : Bool) (c : CodePoint) (followedByBlank : Bool) : Bool :=
  !(isBlankOrBreak c || isOneOf "-?:,[]\x7b\x7d#&*!|>%@\x60" c || c = .apostrophe ||
      c = .quote) ||
    (!followedByBlank && (c = '-' || (!flow && (c = '?' || c = ':'))))

/-- Reads the next token or tokens. -/
def fetch : Scan Unit := do
  let start ← get
  if start.index = 0 && start.rest.head?.any (fun c => c.val = 0xFEFF) then forward 1
  toNextToken (start.rest.length + 1)
  dropStale
  leaveBlocks (Int.ofNat (← get).column)
  let scanner ← get
  let flow := scanner.flowLevel != 0
  let followedByBlank ← endsAt 1 isBlankOrBreak
  let marked := scanner.column = 0 && (← atMarker)
  match scanner.rest.head? with
  | none => endStream
  | some c =>
    if c = '%' && scanner.column = 0 then directiveLine
    else if c = '-' && marked then marker .documentStart
    else if c = '.' && marked then marker .documentEnd
    else if c = '[' then openFlow .flowSequenceStart
    else if c.val = 0x7B then openFlow .flowMappingStart
    else if c = ']' then closeFlow .flowSequenceEnd
    else if c.val = 0x7D then closeFlow .flowMappingEnd
    else if c = ',' then flowEntry
    else if c = '-' && followedByBlank then blockEntry
    else if c = '?' && (flow || followedByBlank) then explicitKey
    else if c = ':' && (flow || followedByBlank) then keyValue
    else if c = '*' then keyLike (return .alias (← anchorName "alias"))
    else if c = '&' then keyLike (return .anchor (← anchorName "anchor"))
    else if c = '!' then keyLike tagToken
    else if c = '|' && !flow then blockToken false
    else if c = '>' && !flow then blockToken true
    else if c = .apostrophe || c = .quote then
      keyLike (return .scalar (← quotedScalar c) false)
    else if startsPlain flow c followedByBlank then
      keyLike (return .scalar (← plainScalar) true)
    else
      let found ← quotedAt 0
      refuse (Text.concat ["found character ", found, " that cannot start any token"])
        (some ⟨"while scanning for the next token", none⟩)

/-- Whether the next token is not known yet: it has not been read, or it may still turn
out to be a key. -/
def isUnknown : Scan Bool := do
  let scanner ← get
  if scanner.ended then pure false
  else if scanner.tokens.isEmpty then pure true
  else
    dropStale
    pure ((← get).pending.any (fun held => held.2.tokenNumber == scanner.taken))

/-- Reads on until the next token is known. -/
def fill : Nat → Scan Unit
  | 0 => exhausted
  | bound + 1 => do
    if ← isUnknown then
      fetch
      fill bound

/-- The next token, and where it starts. Behind the end of the text there is nothing but
that end. -/
def nextToken : Scan (Token × Place) := do
  if ← isUnknown then fill ((← get).rest.length + 2)
  let scanner ← get
  return scanner.tokens.headD (.streamEnd, scanner.toPlace)

/-- Takes the next token. -/
def takeToken : Scan Unit :=
  modify (fun scanner =>
    { scanner with taken := scanner.taken + 1, tokens := scanner.tokens.drop 1 })

end Scan

/-- A scan at the start of a text, which must hold nothing but what documents may hold. -/
def Scanner.start (text : Text) : Except Fault Scanner :=
  match text.dropWhile isAllowed with
  | [] => .ok { rest := text }
  | c :: rest => .error (.malformed (.character c (text.length - (c :: rest).length)))

end SchemaForge.Yaml

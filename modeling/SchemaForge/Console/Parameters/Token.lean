import SchemaForge.Text.Lines
import SchemaForge.Text.Numeral
import SchemaForge.Text.Printable
import SchemaForge.Text.Quoted
import SchemaForge.Text.Utf8

/-!
# Tokens of action parameters

The parameters of an action are written as values: names, numbers, texts in quotes,
and brackets and signs around them. Brackets must match, and white space and line
ends say nothing inside them. `Tokens.ofText` reads the tokens of a whole text, so that
a fault of a token counts wherever it stands. Two faults count only where they are
reached: that the last bracket is not closed, and a backslash that is not the last on
its line. They are the last token then.
-/

namespace SchemaForge.Parameters

/-- Why parameters have no value. -/
inductive Fault where
  /-- A bracket is not closed. -/
  | neverClosed (bracket : CodePoint)
  /-- A bracket closes nothing. -/
  | unmatched (bracket : CodePoint)
  /-- A bracket closes one of another kind, which may stand on another line. -/
  | mismatched (closer opener : CodePoint) (line : Option Nat)
  /-- A text has no closing quote. -/
  | openText (triple : Bool) (line : Nat)
  /-- A character that stands in no token. -/
  | stray (character : CodePoint)
  /-- A numeral of a kind is not finished or goes on with what does not belong to it. -/
  | numeral (kind : Text)
  /-- A digit is too large for its kind of numeral. -/
  | digit (digit : CodePoint) (kind : Text)
  /-- A decimal numeral begins with zero. -/
  | leadingZero
  /-- Something stands between a backslash and the end of its line. -/
  | behindBackslash
  /-- Two values stand side by side in brackets. -/
  | missingComma
  /-- A choice has only one side. -/
  | missingElse
  /-- A name for output has a value behind it without brackets. -/
  | missingBrackets (name : Text)
  /-- A name has one equals sign behind it. -/
  | namedValue
  /-- A value has one equals sign behind it. -/
  | assignedValue
  /-- A value in brackets is to be spread. -/
  | spread (double : Bool)
  /-- A key has a colon and no value. -/
  | missingValue
  /-- A key has no colon. -/
  | missingColon
  /-- Some other fault of the form. -/
  | form
  /-- A value of a kind that is no key. -/
  | notKey (kind : Text)
  /-- The code point zero. -/
  | zero
  /-- A text without bytes. -/
  | unencodable (fault : Utf8.EncodeFault)
  /-- The form is right, but it is more than a value. -/
  | notValue
deriving DecidableEq

namespace Fault

/-- The number of a character as it is written behind `U+`. -/
def number (c : CodePoint) : Text :=
  (Text.padded 16 4 c.val).map (fun digit =>
    if digit.isLower then CodePoint.ofNat (digit.val - 0x20) else digit)

/-- The wording of a fault. -/
def message : Fault → Text
  | neverClosed bracket => Text.concat ["'", [bracket], "' was never closed"]
  | unmatched bracket => Text.concat ["unmatched '", [bracket], "'"]
  | mismatched closer opener line =>
    Text.concat ["closing parenthesis '", [closer], "' does not match opening parenthesis '",
      [opener], "'", (line.map (fun line => " on line " ++ Text.ofNat line)).getD []]
  | openText triple line =>
    Text.concat ["unterminated ", if triple then "triple-quoted " else [],
      "string literal (detected at line ", Text.ofNat line, ")"]
  | stray c =>
    if c.isPrintable then Text.concat ["invalid character '", [c], "' (U+", number c, ")"]
    else "invalid non-printable character U+" ++ number c
  | numeral kind => Text.concat ["invalid ", kind, " literal"]
  | digit c kind => Text.concat ["invalid digit '", [c], "' in ", kind, " literal"]
  | leadingZero =>
    Text.concat ["leading zeros in decimal integer literals are not permitted; ",
      "use an 0o prefix for octal integers"]
  | behindBackslash => "unexpected character after line continuation character"
  | missingComma => "invalid syntax. Perhaps you forgot a comma?"
  | missingElse => "expected 'else' after 'if' expression"
  | missingBrackets name =>
    Text.concat ["Missing parentheses in call to '", name, "'. Did you mean ", name, "(...)?"]
  | namedValue => "invalid syntax. Maybe you meant '==' or ':=' instead of '='?"
  | assignedValue => "cannot assign to literal here. Maybe you meant '==' instead of '='?"
  | spread double =>
    Text.concat ["cannot use ", if double then "double starred" else "starred",
      " expression here"]
  | missingValue => "expression expected after dictionary key and ':'"
  | missingColon => "':' expected after dictionary key"
  | form => "invalid syntax"
  | notKey kind => "unhashable type: " ++ Text.quoted kind
  | zero => "source code string cannot contain null bytes"
  | unencodable fault => fault.message
  | notValue => "malformed node or string"

/-- Whether a fault is one of the form, and not of the value. -/
def isOfForm : Fault → Bool
  | notKey _ | zero | unencodable _ | notValue => false
  | _ => true

end Fault

/-- A token of action parameters. -/
inductive Token where
  | name (text : Text)
  /-- A number, imaginary or not. -/
  | number (imaginary : Bool)
  /-- A text in quotes, plain or with other texts spliced into it. -/
  | text (spliced : Bool)
  | sign (text : Text)
  | opener (bracket : CodePoint)
  | closer (bracket : CodePoint)
  /-- The end of a line outside of brackets. -/
  | lineEnd
  /-- What cannot be passed: a lone backslash, or the end of the text inside of a
  bracket. -/
  | barrier (fault : Fault)
deriving DecidableEq, Inhabited

namespace Token

/-- The ranges of code points beyond ASCII, ends included, that stand in no name: signs,
punctuation, pictures and code points of no fixed meaning. -/
def signRanges : List (Nat × Nat) :=
  [(0x80, 0xA9), (0xAB, 0xB4), (0xB6, 0xB9), (0xBB, 0xBF), (0xD7, 0xD7), (0xF7, 0xF7),
    (0x2000, 0x203E), (0x2041, 0x2053), (0x2055, 0x2070), (0x2074, 0x207E), (0x2080, 0x208F),
    (0x20A0, 0x20CF), (0x2190, 0x2BFF), (0x3000, 0x3004), (0x3008, 0x3020), (0x3030, 0x3030),
    (0xD800, 0xF8FF), (0xFE10, 0xFE1F), (0xFE30, 0xFE32), (0xFE35, 0xFE4C), (0xFE50, 0xFE6F),
    (0xFF01, 0xFF0F), (0xFF1A, 0xFF20), (0xFF3B, 0xFF3E), (0xFF40, 0xFF40), (0xFF5B, 0xFF65),
    (0xFFE0, 0xFFFF), (0x1F000, 0x1FAFF), (0xE0000, 0xE00FF), (0xF0000, 0x10FFFF)]

/-- Whether a code point can stand in a name. -/
def isNamePart (c : CodePoint) : Bool :=
  c.isLower || c.isUpper || c.isDigit || c = '_' ||
    (0x80 ≤ c.val && !c.inRanges signRanges)

/-- Whether a code point is read as part of a name before it is looked at. -/
def continuesName (c : CodePoint) : Bool := isNamePart c || 0x80 ≤ c.val

/-! ## Numbers -/

/-- What follows a run of digits with single underscores between them. The next code point
must be a digit if one is `needed`. -/
def afterDigits (isDigit : CodePoint → Bool) (fault : Text → Fault) (needed : Bool) :
    Text → Except Fault Text
  | [] => if needed then .error (fault []) else .ok []
  | c :: rest =>
    if isDigit c then afterDigits isDigit fault false rest
    else if needed then .error (fault (c :: rest))
    else if c = '_' then afterDigits isDigit fault true rest
    else .ok (c :: rest)

/-- Whether a code point of ASCII can stand in a name. -/
def isCommonNamePart (c : CodePoint) : Bool := c.val < 0x80 && isNamePart c

/-- Whether a text begins with a word that may follow a number at once. -/
def startsWordBehindNumber (text : Text) : Bool :=
  let isWhole (word : String) : Bool :=
    match Text.after? text word with
    | none => false
    | some rest => !(rest.head?.map continuesName).getD false
  let isLead (word : String) : Bool := Text.startsWith text word
  ["and", "else", "for", "not", "or"].any isWhole || ["if", "in", "is"].any isLead

/-- A number of a kind, which must not go on like a name. -/
def endNumber (kind : Text) (imaginary : Bool) (rest : Text) : Except Fault (Token × Text) :=
  let goesOn := (rest.head?.map isCommonNamePart).getD false
  if goesOn && !startsWordBehindNumber rest then .error (.numeral kind)
  else .ok (.number imaginary, rest)

/-- A number in a base that is a power of two, behind its mark. -/
def markedNumber (base : Nat) (kind : Text) (text : Text) : Except Fault (Token × Text) := do
  let isDigit (c : CodePoint) : Bool := Numeral.isDigitOf base c
  let fault (rest : Text) : Fault :=
    match rest with
    | c :: _ => if c.isDigit then .digit c kind else .numeral kind
    | [] => .numeral kind
  let isUnderscore (c : CodePoint) : Bool := c = '_'
  let digits := if (text.head?.map isUnderscore).getD false then text.drop 1 else text
  let rest ← afterDigits isDigit fault true digits
  match rest with
  | c :: _ => if c.isDigit then throw (.digit c kind) else endNumber kind false rest
  | [] => endNumber kind false rest

/-- What follows the decimal digits at the start of a text. -/
def afterDecimals (text : Text) : Except Fault Text :=
  afterDigits CodePoint.isDigit (fun _ => .numeral "decimal") true text

/-- What follows a fraction, if the text begins with one. -/
def afterFraction (text : Text) : Except Fault (Bool × Text) :=
  match text with
  | [] => .ok (false, [])
  | c :: rest =>
    if c = '.' then
      match rest.head? with
      | none => .ok (true, rest)
      | some d => if d.isDigit then (afterDecimals rest).map (true, ·) else .ok (true, rest)
    else .ok (false, text)

/-- What follows an exponent, if the text begins with one. -/
def afterExponent (text : Text) : Except Fault (Bool × Text) :=
  match text with
  | [] => .ok (false, [])
  | c :: rest =>
    if c = 'e' || c = 'E' then
      match rest with
      | [] => .ok (false, text)
      | d :: further =>
        if d = '+' || d = '-' then (afterDecimals further).map (true, ·)
        else if d.isDigit then (afterDecimals rest).map (true, ·)
        else .ok (false, text)
    else .ok (false, text)

/-- The end of a decimal number behind its exponent. -/
def endDecimal (text : Text) : Except Fault (Token × Text) :=
  match text with
  | [] => .ok (.number false, [])
  | c :: rest =>
    if c = 'j' || c = 'J' then endNumber "imaginary" true rest
    else endNumber "decimal" false text

/-- A number at the start of a text. -/
def readNumber (text : Text) : Except Fault (Token × Text) := do
  let marked :=
    [("0x", 16, "hexadecimal"), ("0X", 16, "hexadecimal"), ("0o", 8, "octal"),
      ("0O", 8, "octal"), ("0b", 2, "binary"), ("0B", 2, "binary")].findSome?
      (fun ((mark : String), (base : Nat), (kind : String)) =>
        (Text.after? text mark).map (fun rest => (base, kind, rest)))
  match marked with
  | some (base, kind, rest) => markedNumber base kind rest
  | none =>
    let startsWithPoint := text.head? = some (CodePoint.ofChar '.')
    let whole ← if startsWithPoint then pure text else afterDecimals text
    let (fraction, rest) ← afterFraction whole
    let (exponent, rest) ← afterExponent rest
    let digits := text.take (text.length - whole.length)
    let isZero (c : CodePoint) : Bool := c = '0' || c = '_'
    let imaginary := rest.head? = some (CodePoint.ofChar 'j') ||
      rest.head? = some (CodePoint.ofChar 'J')
    if text.head? = some (CodePoint.ofChar '0') && !digits.all isZero && !fraction &&
        !exponent && !imaginary then throw .leadingZero
    else endDecimal rest

/-! ## Texts in quotes -/

/-- The letters that may stand before a quote, in small letters. -/
def textMarks : List Text := [[], "r", "u", "b", "f", "br", "rb", "fr", "rf"]

/-- What follows a text in quotes of one kind. A backslash takes the next code point with
it. -/
def afterText (quote : CodePoint) (triple : Bool) (line : Nat) : Nat → Text → Except Fault Text
  | 0, _ | _, [] => .error (.openText triple line)
  | bound + 1, c :: rest =>
    let onward := if c = .lineFeed then line + 1 else line
    if c = .backslash then
      let skipped := rest.head? = some .lineFeed
      afterText quote triple (if skipped then onward + 1 else onward) bound (rest.drop 1)
    else if c = .lineFeed && !triple then .error (.openText triple line)
    else if c = quote then
      if !triple then .ok rest
      else if rest.take 2 = [quote, quote] then .ok (rest.drop 2)
      else afterText quote triple onward bound rest
    else afterText quote triple onward bound rest

/-- A text in quotes behind its letters, if there is one. -/
def readText? (marks : Text) (line : Nat) (text : Text) : Option (Except Fault (Token × Text)) :=
  match text with
  | [] => none
  | quote :: rest =>
    let small := marks.map (fun c => if c.isUpper then CodePoint.ofNat (c.val + 0x20) else c)
    if (quote = .quote || quote = .apostrophe) && textMarks.contains small then
      let spliced := small.contains (CodePoint.ofChar 'f')
      let triple := rest.take 2 = [quote, quote]
      let behind := if triple then rest.drop 2 else rest
      some ((afterText quote triple line (text.length + 1) behind).map (Token.text spliced, ·))
    else none

/-! ## Signs -/

/-- The signs, the longer ones first. -/
def signs : List String :=
  ["...", "**=", "//=", "<<=", ">>=", "!=", "**", "//", "<<", ">>", "<=", ">=", "==", "->",
    "+=", "-=", "*=", "/=", "%=", "&=", "|=", "^=", "@=", ":=", "<>", "%", "&", "*", "+", ",",
    "-", ".", "/", ":", ";", "<", "=", ">", "@", "^", "|", "~", "$", "?", "!", "\x60"]

/-- A sign at the start of a text. -/
def readSign (c : CodePoint) (rest : Text) : Except Fault (Token × Text) :=
  match signs.find? (fun (spelling : String) => Text.startsWith (c :: rest) spelling) with
  | some spelling => .ok (.sign spelling, (c :: rest).drop spelling.length)
  | none => .error (.stray c)

/-- A token at the start of a text that is neither white space nor a bracket. -/
def read (line : Nat) (c : CodePoint) (rest : Text) : Except Fault (Token × Text) :=
  let startsNumber :=
    c.isDigit || (c = '.' && (rest.head?.map CodePoint.isDigit).getD false)
  let run := (c :: rest).takeWhile continuesName
  if startsNumber then readNumber (c :: rest)
  else
    match readText? run line ((c :: rest).drop run.length) with
    | some outcome => outcome
    | none =>
      match run.find? (fun part => !isNamePart part) with
      | some other => .error (.stray other)
      | none =>
        if run.isEmpty then readSign c rest else .ok (.name run, (c :: rest).drop run.length)

end Token

namespace Tokens

/-- The bracket that closes another. -/
def closerOf (opener : CodePoint) : CodePoint :=
  if opener = '(' then CodePoint.ofChar ')'
  else if opener = '[' then CodePoint.ofChar ']'
  else CodePoint.ofChar '\x7d'

/-- Whether a code point opens a bracket. -/
def isOpener (c : CodePoint) : Bool := c = '(' || c = '[' || c = '\x7b'

/-- Whether a code point closes a bracket. -/
def isCloser (c : CodePoint) : Bool := c = ')' || c = ']' || c = '\x7d'

/-- The tokens of the rest of a text on a line, inside some brackets with their lines. -/
def readFrom (line : Nat) (around : List (CodePoint × Nat)) :
    Nat → Text → Except Fault (List Token)
  | 0, _ | _, [] =>
    .ok ((around.map (fun held => Token.barrier (.neverClosed held.1))).take 1)
  | bound + 1, c :: rest =>
    if c = .lineFeed then do
      let others ← readFrom (line + 1) around bound rest
      pure (if around.isEmpty then .lineEnd :: others else others)
    else if c = ' ' || c = .tab || c.val = 0x0C then readFrom line around bound rest
    else if c = '#' then
      readFrom line around bound (rest.dropWhile (fun d => d ≠ .lineFeed))
    else if c = .backslash then
      if rest.head? = some .lineFeed then readFrom (line + 1) around bound (rest.drop 1)
      else .ok [.barrier .behindBackslash]
    else if isOpener c then do
      pure (.opener c :: (← readFrom line ((c, line) :: around) bound rest))
    else if isCloser c then
      match around with
      | [] => .error (.unmatched c)
      | (opener, opened) :: others =>
        if closerOf opener = c then do
          pure (.closer c :: (← readFrom line others bound rest))
        else .error (.mismatched c opener (if opened = line then none else some opened))
    else do
      let (token, behind) ← Token.read line c rest
      let passed := (c :: rest).take (rest.length + 1 - behind.length)
      let line := line + passed.count .lineFeed
      pure (token :: (← readFrom line around bound behind))

/-- The tokens of a text. -/
def ofText (text : Text) : Except Fault (List Token) :=
  readFrom 1 [] (text.length + 1) text

end Tokens

end SchemaForge.Parameters

import SchemaForge.Schema.BlockString
import SchemaForge.Schema.Token

/-!
# Lexemes

A lexeme is one token as it is spelled: the kind, the decoded value, the raw
spelling, and the text that follows. `Lexeme.read` takes the lexeme at the start
of a text that begins with no ignored code point, or says why there is none.

`Lexeme.raw_append_rest` says that reading splits the text and loses nothing, and
`Lexeme.raw_ne_nil` that a lexeme is never empty; together they make every scan of
a whole text end.
-/

namespace SchemaForge

/-- Why no lexeme begins at a place. -/
inductive LexicalFault where
  | lonelyDot
  | unexpectedCharacter (c : CodePoint)
  | newlineInString
  | unterminatedString
  | unterminatedBlockString
  | invalidUnicodeEscape (digits : Text)
  | invalidEscape (mark : Text)
  | digitAfterZero
  | expectedDigit (found : Text)
  | numberRunsOn (c : CodePoint)
deriving DecidableEq

/-- The wording of a lexical fault. -/
def LexicalFault.message : LexicalFault → Text
  | lonelyDot => "Unexpected '.'; did you mean '...'?"
  | unexpectedCharacter c => "Unexpected character " ++ Text.quoted [c]
  | newlineInString => "Unterminated string literal (newline in string)"
  | unterminatedString => "Unterminated string literal (EOF)"
  | unterminatedBlockString => "Unterminated block string (EOF)"
  | invalidUnicodeEscape digits => "Invalid unicode escape \\u" ++ digits
  | invalidEscape mark => "Invalid escape sequence \\" ++ mark
  | digitAfterZero => "Invalid number, unexpected digit after 0"
  | expectedDigit found => "Invalid number, expected digit but got " ++ Text.quoted found
  | numberRunsOn c => "Invalid number, unexpected character " ++ Text.quoted [c]

namespace CodePoint

/-- What may stand between tokens: blank, tab, carriage return, line feed, comma
and the byte order mark. -/
def isIgnored (c : CodePoint) : Bool :=
  c = ' ' || c = .tab || c = .carriageReturn || c = .lineFeed || c = ',' || c.val = 0xFEFF

/-- What a name may begin with. -/
def isNameStart (c : CodePoint) : Bool := c.isUpper || c.isLower || c = '_'

/-- What a name may go on with. -/
def isNameRest (c : CodePoint) : Bool := c.isNameStart || c.isDigit

/-- What ends a comment. -/
def endsComment (c : CodePoint) : Bool := c = .lineFeed || c = .carriageReturn

/-- The code point that a single-letter escape stands for. -/
def escapeMeaning? (mark : CodePoint) : Option CodePoint :=
  if mark = .quote then some .quote
  else if mark = .backslash then some .backslash
  else if mark = '/' then some ('/' : Char)
  else if mark = 'b' then some ⟨0x08, by decide⟩
  else if mark = 'f' then some ⟨0x0C, by decide⟩
  else if mark = 'n' then some .lineFeed
  else if mark = 'r' then some .carriageReturn
  else if mark = 't' then some .tab
  else none

end CodePoint

/-! ## Quoted strings -/

/-- One unit of a quoted string as it is spelled. -/
inductive StringItem where
  /-- A code point that stands for itself. -/
  | plain (c : CodePoint)
  /-- A backslash and a letter or sign. -/
  | escape (mark : CodePoint)
  /-- A backslash, the letter u and four hexadecimal digits. -/
  | unicode (first second third fourth : CodePoint)
deriving DecidableEq

namespace StringItem

/-- How an item is spelled between the quotes. -/
def spelling : StringItem → Text
  | plain c => [c]
  | escape mark => [.backslash, mark]
  | unicode first second third fourth =>
    [.backslash, ('u' : Char), first, second, third, fourth]

/-- The one code point an item stands for. A numeric escape gives the code point of
its number, a surrogate included, and is never joined with its neighbour. -/
def value : StringItem → CodePoint
  | plain c => c
  | escape mark => mark.escapeMeaning?.getD mark
  | unicode first second third fourth =>
    CodePoint.ofNat (Text.toNat 16 [first, second, third, fourth])

/-- Reads the items up to the closing quote, and what follows it. -/
def readAll : Text → Except LexicalFault (List StringItem × Text)
  | [] => .error .unterminatedString
  | c :: rest =>
    if c = .quote then .ok ([], rest)
    else if c = .lineFeed || c = .carriageReturn then .error .newlineInString
    else if c = .backslash then
      match rest with
      | [] => .error (.invalidEscape [])
      | mark :: rest =>
        if mark = 'u' then
          match rest with
          | first :: second :: third :: fourth :: rest =>
            if [first, second, third, fourth].all CodePoint.isHexDigit then
              match readAll rest with
              | .ok (items, tail) => .ok (unicode first second third fourth :: items, tail)
              | .error fault => .error fault
            else .error (.invalidUnicodeEscape [first, second, third, fourth])
          | short => .error (.invalidUnicodeEscape short)
        else if mark.escapeMeaning?.isSome then
          match readAll rest with
          | .ok (items, tail) => .ok (escape mark :: items, tail)
          | .error fault => .error fault
        else .error (.invalidEscape [mark])
    else
      match readAll rest with
      | .ok (items, tail) => .ok (plain c :: items, tail)
      | .error fault => .error fault

/-- The items, the closing quote and what follows it make up the text. -/
theorem spelling_readAll {text : Text} {items : List StringItem} {rest : Text}
    (accepted : readAll text = .ok (items, rest)) :
    text = items.flatMap spelling ++ .quote :: rest := by
  fun_induction readAll text generalizing items with
  | case1 => cases accepted
  | case2 => cases accepted; simp_all
  | case3 => cases accepted
  | case4 => cases accepted
  | case5 => cases accepted; simp_all [spelling]
  | case6 => cases accepted
  | case7 => cases accepted
  | case8 => cases accepted
  | case9 => cases accepted; simp_all [spelling]
  | case10 => cases accepted
  | case11 => cases accepted
  | case12 => cases accepted; simp_all [spelling]
  | case13 => cases accepted

end StringItem

/-! ## Block strings -/

/-- The three quotes that open and close a block string. -/
def tripleQuote : Text := [.quote, .quote, .quote]

/-- One unit of a block string as it is spelled. -/
inductive BlockItem where
  /-- A code point that stands for itself. -/
  | plain (c : CodePoint)
  /-- A backslash and three quotes, which stand for the three quotes. -/
  | quotes
deriving DecidableEq

namespace BlockItem

/-- How an item is spelled between the triple quotes. -/
def spelling : BlockItem → Text
  | plain c => [c]
  | quotes => .backslash :: tripleQuote

/-- What an item stands for. -/
def value : BlockItem → Text
  | plain c => [c]
  | quotes => tripleQuote

/-- Reads the items up to the closing quotes, and what follows them. -/
def readAll : Text → Option (List BlockItem × Text)
  | [] => none
  | c :: rest =>
    match Text.after? (c :: rest) tripleQuote with
    | some tail => some ([], tail)
    | none =>
      match found : Text.after? (c :: rest) (.backslash :: tripleQuote) with
      | some tail =>
        have := Text.length_of_after? found
        (readAll tail).map (fun (items, tail) => (quotes :: items, tail))
      | none => (readAll rest).map (fun (items, tail) => (plain c :: items, tail))
termination_by text => text.length
decreasing_by
  · simp only [List.length_cons] at this ⊢
    omega
  · simp

end BlockItem

/-- What follows a lead makes up the text together with it. -/
theorem Text.eq_append_of_after? {text lead rest : Text}
    (found : Text.after? text lead = some rest) : text = lead ++ rest := by
  induction text generalizing lead with
  | nil =>
    cases lead with
    | nil => simp [Text.after?] at found; simp [found]
    | cons d lead => simp [Text.after?] at found
  | cons c text inductionHypothesis =>
    cases lead with
    | nil => simp [Text.after?] at found; simp [found]
    | cons d lead =>
      simp only [Text.after?] at found
      split at found
      · next same => rw [same, inductionHypothesis found]; rfl
      · cases found

/-- The items, the closing quotes and what follows them make up the text. -/
theorem BlockItem.spelling_readAll {text : Text} {items : List BlockItem} {rest : Text}
    (accepted : BlockItem.readAll text = some (items, rest)) :
    text = items.flatMap BlockItem.spelling ++ (tripleQuote ++ rest) := by
  fun_induction BlockItem.readAll text generalizing items with
  | case1 => cases accepted
  | case2 c tail rest' found =>
    cases accepted
    simpa using Text.eq_append_of_after? found
  | case3 c tail _ rest' found _ inductionHypothesis =>
    obtain ⟨⟨more, final⟩, followed, same⟩ := Option.map_eq_some_iff.mp accepted
    cases same
    have split := Text.eq_append_of_after? found
    rw [inductionHypothesis followed] at split
    simpa [BlockItem.spelling] using split
  | case4 c tail _ _ inductionHypothesis =>
    obtain ⟨⟨more, final⟩, followed, same⟩ := Option.map_eq_some_iff.mp accepted
    cases same
    simp [BlockItem.spelling, inductionHypothesis followed]

/-! ## Numbers -/

namespace Number

/-- A run of at least one digit, and what follows it. -/
def readDigits : Text → Except LexicalFault (Text × Text)
  | [] => .error (.expectedDigit [])
  | c :: rest =>
    if c.isDigit then .ok ((c :: rest).takeWhile CodePoint.isDigit,
      (c :: rest).dropWhile CodePoint.isDigit)
    else .error (.expectedDigit [c])

/-- The sign, which may be missing. -/
def readSign : Text → Text × Text
  | [] => ([], [])
  | c :: rest => if c = '-' then ([c], rest) else ([], c :: rest)

/-- The whole part: a zero that no digit follows, or a run of digits. -/
def readWhole : Text → Except LexicalFault (Text × Text)
  | [] => readDigits []
  | c :: rest =>
    if c = '0' then
      match rest with
      | [] => .ok ([c], [])
      | d :: tail => if d.isDigit then .error .digitAfterZero else .ok ([c], d :: tail)
    else readDigits (c :: rest)

/-- The fraction, which may be missing: a point and a run of digits. -/
def readFraction : Text → Except LexicalFault (Text × Text)
  | [] => .ok ([], [])
  | c :: rest =>
    if c = '.' then
      match readDigits rest with
      | .ok (digits, tail) => .ok (c :: digits, tail)
      | .error fault => .error fault
    else .ok ([], c :: rest)

/-- The sign of an exponent, which may be missing. -/
def readExponentSign : Text → Text × Text
  | [] => ([], [])
  | c :: rest => if c = '+' || c = '-' then ([c], rest) else ([], c :: rest)

/-- The exponent, which may be missing: its mark, a sign and a run of digits. -/
def readExponent : Text → Except LexicalFault (Text × Text)
  | [] => .ok ([], [])
  | c :: rest =>
    if c = 'e' || c = 'E' then
      match readDigits (readExponentSign rest).2 with
      | .ok (digits, tail) => .ok (c :: (readExponentSign rest).1 ++ digits, tail)
      | .error fault => .error fault
    else .ok ([], c :: rest)

/-- The code point after a number must not look like more of it. -/
def checkEnd : Text → Except LexicalFault Unit
  | [] => .ok ()
  | c :: _ => if c = '.' || c.isNameStart then .error (.numberRunsOn c) else .ok ()

end Number

/-! ## Lexemes -/

/-- One token as it is spelled, with the text that follows it. -/
structure Lexeme where
  /-- The kind of the token. -/
  kind : TokenKind
  /-- The decoded value. -/
  value : Text
  /-- The spelling. -/
  raw : Text
  /-- What follows the spelling. -/
  rest : Text
deriving DecidableEq

namespace Lexeme

/-- The comment behind a number sign. -/
def comment (lead : CodePoint) (rest : Text) : Lexeme :=
  let body := rest.takeWhile (fun c => !c.endsComment)
  ⟨.comment, body, lead :: body, rest.dropWhile (fun c => !c.endsComment)⟩

/-- The string behind an opening quote. -/
def string (rest : Text) : Except LexicalFault Lexeme :=
  match StringItem.readAll rest with
  | .ok (items, tail) =>
    .ok ⟨.string, items.map StringItem.value,
      .quote :: (items.flatMap StringItem.spelling ++ [.quote]), tail⟩
  | .error fault => .error fault

/-- The block string behind opening triple quotes. -/
def block (rest : Text) : Except LexicalFault Lexeme :=
  match BlockItem.readAll rest with
  | some (items, tail) =>
    .ok ⟨.blockString, BlockString.value (items.flatMap BlockItem.value),
      tripleQuote ++ (items.flatMap BlockItem.spelling ++ tripleQuote), tail⟩
  | none => .error .unterminatedBlockString

/-- The number at the start of a text. -/
def number (text : Text) : Except LexicalFault Lexeme :=
  let (sign, text) := Number.readSign text
  match Number.readWhole text with
  | .error fault => .error fault
  | .ok (whole, text) =>
    match Number.readFraction text with
    | .error fault => .error fault
    | .ok (fraction, text) =>
      match Number.readExponent text with
      | .error fault => .error fault
      | .ok (exponent, rest) =>
        match Number.checkEnd rest with
        | .error fault => .error fault
        | .ok () =>
          let raw := sign ++ (whole ++ (fraction ++ exponent))
          let kind := if fraction.isEmpty && exponent.isEmpty then .int else .float
          .ok ⟨kind, raw, raw, rest⟩

/-- The name at the start of a text. -/
def name (text : Text) : Lexeme :=
  let raw := text.takeWhile CodePoint.isNameRest
  ⟨.name, raw, raw, text.dropWhile CodePoint.isNameRest⟩

/-- The lexeme at the start of a text that begins with the given code point. -/
def read (c : CodePoint) (rest : Text) : Except LexicalFault Lexeme :=
  if c = '#' then .ok (comment c rest)
  else if c = .quote then
    match Text.after? rest [.quote, .quote] with
    | some body => block body
    | none => string rest
  else if c = '-' || c.isDigit then number (c :: rest)
  else if c.isNameStart then .ok (name (c :: rest))
  else if c = '.' then
    match Text.after? rest ".." with
    | some tail => .ok ⟨.spread, "...", "...", tail⟩
    | none => .error .lonelyDot
  else
    match TokenKind.ofPunctuator? c with
    | some kind => .ok ⟨kind, [c], [c], rest⟩
    | none => .error (.unexpectedCharacter c)

end Lexeme

/-! ## Reading splits the text -/

namespace Number

/-- A run of digits and what follows it make up the text. -/
theorem readDigits_append {text digits rest : Text}
    (accepted : readDigits text = .ok (digits, rest)) : digits ++ rest = text := by
  cases text with
  | nil => cases accepted
  | cons c tail =>
    simp only [readDigits] at accepted
    split at accepted
    · cases accepted
      exact List.takeWhile_append_dropWhile
    · cases accepted

/-- A run of digits is not empty. -/
theorem readDigits_ne_nil {text digits rest : Text}
    (accepted : readDigits text = .ok (digits, rest)) : digits ≠ [] := by
  cases text with
  | nil => cases accepted
  | cons c tail =>
    simp only [readDigits] at accepted
    split at accepted
    · next isDigit =>
      cases accepted
      simp [isDigit]
    · cases accepted

/-- A sign and what follows it make up the text. -/
theorem readSign_append (text : Text) : (readSign text).1 ++ (readSign text).2 = text := by
  cases text with
  | nil => rfl
  | cons c tail =>
    simp only [readSign]
    split <;> rfl

/-- The whole part and what follows it make up the text. -/
theorem readWhole_append {text whole rest : Text}
    (accepted : readWhole text = .ok (whole, rest)) : whole ++ rest = text := by
  cases text with
  | nil => cases accepted
  | cons c tail =>
    simp only [readWhole] at accepted
    split at accepted
    · split at accepted
      · cases accepted; rfl
      · split at accepted
        · cases accepted
        · cases accepted; rfl
    · exact readDigits_append accepted

/-- The whole part is not empty. -/
theorem readWhole_ne_nil {text whole rest : Text}
    (accepted : readWhole text = .ok (whole, rest)) : whole ≠ [] := by
  cases text with
  | nil => cases accepted
  | cons c tail =>
    simp only [readWhole] at accepted
    split at accepted
    · split at accepted
      · cases accepted; simp
      · split at accepted
        · cases accepted
        · cases accepted; simp
    · exact readDigits_ne_nil accepted

/-- The fraction and what follows it make up the text. -/
theorem readFraction_append {text fraction rest : Text}
    (accepted : readFraction text = .ok (fraction, rest)) : fraction ++ rest = text := by
  cases text with
  | nil => cases accepted; rfl
  | cons c tail =>
    simp only [readFraction] at accepted
    split at accepted
    · split at accepted
      · next found =>
        cases accepted
        simp [readDigits_append found]
      · cases accepted
    · cases accepted; rfl

/-- The sign of an exponent and what follows it make up the text. -/
theorem readExponentSign_append (text : Text) :
    (readExponentSign text).1 ++ (readExponentSign text).2 = text := by
  cases text with
  | nil => rfl
  | cons c tail =>
    simp only [readExponentSign]
    split <;> rfl

/-- The exponent and what follows it make up the text. -/
theorem readExponent_append {text exponent rest : Text}
    (accepted : readExponent text = .ok (exponent, rest)) : exponent ++ rest = text := by
  cases text with
  | nil => cases accepted; rfl
  | cons c tail =>
    simp only [readExponent] at accepted
    split at accepted
    · split at accepted
      · next found =>
        cases accepted
        simp [readDigits_append found, readExponentSign_append]
      · cases accepted
    · cases accepted; rfl

end Number

namespace Lexeme

/-- A number splits the text and is not empty. -/
theorem number_splits {text : Text} {lexeme : Lexeme} (accepted : number text = .ok lexeme) :
    lexeme.raw ++ lexeme.rest = text ∧ lexeme.raw ≠ [] := by
  simp only [number] at accepted
  split at accepted
  · cases accepted
  · next whole afterWhole foundWhole =>
    split at accepted
    · cases accepted
    · next fraction afterFraction foundFraction =>
      split at accepted
      · cases accepted
      · next exponent rest foundExponent =>
        split at accepted
        · cases accepted
        · cases accepted
          have wholeSplit := Number.readWhole_append foundWhole
          have fractionSplit := Number.readFraction_append foundFraction
          have exponentSplit := Number.readExponent_append foundExponent
          have signSplit := Number.readSign_append text
          constructor
          · simp only [List.append_assoc]
            rw [exponentSplit, fractionSplit, wholeSplit, signSplit]
          · simp [Number.readWhole_ne_nil foundWhole]

/-- A lexeme that is read splits the text and is not empty. -/
theorem read_splits {c : CodePoint} {rest : Text} {lexeme : Lexeme}
    (accepted : read c rest = .ok lexeme) :
    lexeme.raw ++ lexeme.rest = c :: rest ∧ lexeme.raw ≠ [] := by
  unfold read at accepted
  split at accepted
  · cases accepted
    exact ⟨by simp [comment, List.takeWhile_append_dropWhile], by simp [comment]⟩
  split at accepted
  · next isQuote =>
    split at accepted
    · next body foundBody =>
      simp only [block] at accepted
      split at accepted
      · next items tail foundItems =>
        cases accepted
        refine ⟨?_, by simp [tripleQuote]⟩
        rw [Text.eq_append_of_after? foundBody, BlockItem.spelling_readAll foundItems, isQuote]
        simp [tripleQuote]
      · cases accepted
    · simp only [string] at accepted
      split at accepted
      · next items tail foundItems =>
        cases accepted
        refine ⟨?_, by simp⟩
        rw [StringItem.spelling_readAll foundItems, isQuote]
        simp
      · cases accepted
  split at accepted
  · exact number_splits accepted
  split at accepted
  · next startsName =>
    cases accepted
    refine ⟨List.takeWhile_append_dropWhile, ?_⟩
    simp [name, CodePoint.isNameRest, startsName]
  split at accepted
  · next isDot =>
    split at accepted
    · next tail foundTail =>
      cases accepted
      refine ⟨?_, by simp [Text.ofString]⟩
      rw [Text.eq_append_of_after? foundTail, isDot]
      rfl
    · cases accepted
  split at accepted
  · cases accepted
    exact ⟨rfl, by simp⟩
  · cases accepted

/-- The spelling and what follows it make up the text. -/
theorem raw_append_rest {c : CodePoint} {rest : Text} {lexeme : Lexeme}
    (accepted : read c rest = .ok lexeme) : lexeme.raw ++ lexeme.rest = c :: rest :=
  (read_splits accepted).1

/-- A lexeme has at least one code point. -/
theorem raw_ne_nil {c : CodePoint} {rest : Text} {lexeme : Lexeme}
    (accepted : read c rest = .ok lexeme) : lexeme.raw ≠ [] :=
  (read_splits accepted).2

/-- What follows a lexeme is shorter than the text it was read from. -/
theorem length_rest_lt {c : CodePoint} {rest : Text} {lexeme : Lexeme}
    (accepted : read c rest = .ok lexeme) : lexeme.rest.length < (c :: rest).length := by
  rw [← raw_append_rest accepted, List.length_append]
  have positive := List.length_pos_iff.mpr (raw_ne_nil accepted)
  omega

end Lexeme

end SchemaForge

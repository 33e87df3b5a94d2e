import SchemaForge.Console.Parameters.Token

/-!
# Actions

A mark can ask for an action instead of a style. Its parameters are the name of a
handler, perhaps with values in brackets, or values alone. Nothing here ever acts,
but the values must be ones: numbers, texts, the three constants, and tuples, sets and
mappings of values.

The tokens are read as an expression of which only the `Shape` is kept. If they form
none, they are read once more with an eye on common mistakes, the first of which gives
the fault a name of its own. The end of the text inside of a bracket is a fault as soon
as it is looked at. The recursion is bounded by the number of tokens.
-/

namespace SchemaForge.Parameters

/-- What is known of an expression. -/
inductive Shape where
  /-- A number, which may be imaginary and may have a sign. -/
  | number (imaginary signed : Bool)
  /-- A text in quotes. -/
  | text
  /-- A name that is no constant. -/
  | name (text : Text)
  /-- Another value, with the kind that keeps it from being a key, if one does. -/
  | value (unfit : Option Text)
  /-- More than a value. -/
  | other
deriving DecidableEq, Inhabited

namespace Shape

/-- Whether the shape is that of a value. -/
def isValue : Shape → Bool
  | name _ | other => false
  | _ => true

/-- The kind that keeps a shape from being a key. -/
def unfit? : Shape → Option Text
  | value unfit => unfit
  | _ => none

/-- The shape of a tuple. -/
def tuple (shapes : List Shape) : Shape :=
  if shapes.all isValue then value (shapes.findSome? unfit?) else other

/-- The shape of a set or mapping with some keys, which must be fit for it. -/
def keyed (kind : Text) (keys values : List Shape) : Except Fault Shape :=
  if !(keys ++ values).all isValue then .ok other
  else
    match keys.findSome? unfit? with
    | some unfit => .error (.notKey unfit)
    | none => .ok (value (some kind))

/-- The shape behind a sign. -/
def signed (sign : Text) : Shape → Shape
  | number imaginary false =>
    if sign = ("+" : Text) || sign = ("-" : Text) then number imaginary true else other
  | _ => other

/-- The shape of two operands. A real and an imaginary number make one value. -/
def combined (sign : Text) : Shape → Shape → Shape
  | number false _, number true false =>
    if sign = ("+" : Text) || sign = ("-" : Text) then value none else other
  | _, _ => other

end Shape

/-- Why a reading ends. -/
inductive Stop where
  /-- The tokens form no expression; they may form something else. -/
  | noMatch
  /-- A fault that counts in any case. -/
  | fault (fault : Fault)

/-- A reading of tokens. -/
abbrev Read (α : Type) := StateT (List Token) (Except Stop) α

namespace Read

/-- The tokens do not match. -/
def fail {α : Type} : Read α := throw .noMatch

/-- A fault that counts in any case. -/
def raise {α : Type} (fault : Fault) : Read α := throw (.fault fault)

/-- The next token. -/
def peek : Read (Option Token) := do
  match ← get with
  | [] => pure none
  | .barrier fault :: _ => raise fault
  | token :: _ => pure (some token)

/-- Passes the next token. -/
def pass : Read Unit := modify (·.drop 1)

/-- Passes the next token if it is the given one, and says so. -/
def passed (token : Token) : Read Bool := do
  if (← peek) = some token then
    pass
    pure true
  else pure false

/-- Passes a token, which must be the given one. -/
def expect (token : Token) : Read Unit := do
  if !(← passed token) then fail

/-- Whether the next token is the given one. -/
def meets (token : Token) : Read Bool := return (← peek) = some token

/-- Reads ahead: what a reading gives and the tokens it would leave, if there is a match. -/
def ahead {α : Type} (reading : Read α) : Read (Option (α × List Token)) := fun tokens =>
  match reading tokens with
  | .ok result => .ok (some result, tokens)
  | .error .noMatch => .ok (none, tokens)
  | .error (.fault fault) => .error (.fault fault)

/-- Reads at other tokens, and comes back. -/
def readAt {α : Type} (tokens : List Token) (reading : Read α) : Read α := do
  let here ← get
  set tokens
  let result ← reading
  set here
  pure result

/-- A closing round bracket. -/
def closingBracket : Token := .closer (CodePoint.ofChar ')')

/-- A closing brace. -/
def closingBrace : Token := .closer (CodePoint.ofChar '\x7d')

/-- The words that are no names. -/
def keywords : List Text :=
  ["and", "as", "assert", "async", "await", "break", "class", "continue", "def", "del", "elif",
    "else", "except", "finally", "for", "from", "global", "if", "import", "in", "is", "lambda",
    "nonlocal", "not", "or", "pass", "raise", "return", "try", "while", "with", "yield"]

/-- The names of constants. -/
def constants : List Text := ["None", "True", "False"]

/-- The words that are keywords only in some places. -/
def softKeywords : List Text := ["_", "case", "match"]

/-- The names that once stood before a value without brackets. -/
def bareCallers : List Text := ["print", "exec"]

/-- The signs between two operands. -/
def operators : List Text :=
  ["!=", "**", "//", "<<", ">>", "<=", ">=", "==", "%", "&", "*", "+", "-", "/", "<", ">", "@",
    "^", "|"]

/-- The operator at the start of the tokens, if there is one. -/
def operator? : Read (Option Text) := do
  match ← peek with
  | some (.sign sign) =>
    if operators.contains sign then
      pass
      pure (some sign)
    else pure none
  | some (.name word) =>
    if [("and" : Text), "or", "in"].contains word then
      pass
      pure (some word)
    else if word = ("is" : Text) then
      pass
      let _ ← passed (.name "not")
      pure (some word)
    else if word = ("not" : Text) then
      let found ← ahead (do
        pass
        expect (.name "in"))
      match found with
      | some (_, behind) =>
        set behind
        pure (some word)
      | none => pure none
    else pure none
  | _ => pure none

/-- Whether the texts in quotes at the start of some tokens have others spliced into them. -/
def isSpliced : List Token → Bool
  | .text spliced :: rest => spliced || isSpliced rest
  | _ => false

/-- The tokens behind the texts in quotes at their start. -/
def behindTexts : List Token → List Token
  | .text _ :: rest => behindTexts rest
  | tokens => tokens

/-- Whether two values side by side are looked for at the start of some tokens. -/
def mayLackComma : List Token → Bool
  | .name word :: .text _ :: _ => keywords.contains word || constants.contains word
  | .name word :: _ => !softKeywords.contains word
  | _ => true

mutual

/-- An expression. While explaining, mistakes are looked for inside of it and behind it. -/
def expression (explain inside : Bool) : Nat → Read Shape
  | 0 => fail
  | bound + 1 => do
    if explain then
      if mayLackComma (← get) then sideBySide inside bound
      bareCall bound
    let first ← operands explain bound
    if ← passed (.name "if") then
      let _ ← operands explain bound
      expect (.name "else")
      let _ ← expression explain inside bound
      pure .other
    else pure first

/-- Looks for two expressions side by side, and for a choice with one side. -/
def sideBySide (inside : Bool) : Nat → Read Unit
  | 0 => pure ()
  | bound + 1 => do
    match ← ahead (operands true bound) with
    | none => pure ()
    | some (first, behind) =>
      readAt behind (do
        match ← ahead (expression false inside bound) with
        | some _ =>
          let bare := bareCallers.any (fun word => first = .name word)
          if inside && !bare then raise .missingComma
        | none =>
          if ← passed (.name "if") then
            match ← ahead (operands true bound) with
            | none => pure ()
            | some (_, behind) =>
              readAt behind (do
                if !(← meets (.name "else")) && !(← meets (.sign ":")) then
                  raise .missingElse))

/-- Looks for a value behind a name that should have brackets. -/
def bareCall : Nat → Read Unit
  | 0 => pure ()
  | bound + 1 => do
    match ← get with
    | .name word :: behind =>
      if !keywords.contains word && !constants.contains word then
        readAt behind (do
          if !(← meets (.opener (CodePoint.ofChar '('))) then
            let value ← ahead (expression true false bound)
            if value.isSome && bareCallers.contains word then raise (.missingBrackets word))
    | _ => pure ()

/-- Operands with operators between them. -/
def operands (explain : Bool) : Nat → Read Shape
  | 0 => fail
  | bound + 1 => do
    let first ← operand explain bound
    moreOperands explain first bound

/-- The operands behind the first one. -/
def moreOperands (explain : Bool) (first : Shape) : Nat → Read Shape
  | 0 => fail
  | bound + 1 => do
    match ← operator? with
    | none => pure first
    | some sign =>
      let second ← operand explain bound
      moreOperands explain (first.combined sign second) bound

/-- An operand with the signs in front of it. -/
def operand (explain : Bool) : Nat → Read Shape
  | 0 => fail
  | bound + 1 => do
    match ← peek with
    | some (.sign sign) =>
      if [("+" : Text), "-", "~"].contains sign then
        pass
        let shape ← operand explain bound
        pure (shape.signed sign)
      else primary explain bound
    | some (.name word) =>
      if [("not" : Text), "await"].contains word then
        pass
        let _ ← operand explain bound
        pure .other
      else primary explain bound
    | _ => primary explain bound

/-- A single expression with calls and attributes behind it. -/
def primary (explain : Bool) : Nat → Read Shape
  | 0 => fail
  | bound + 1 => do
    let shape ← atom explain bound
    trailers explain shape bound

/-- The calls and attributes behind an expression. -/
def trailers (explain : Bool) (shape : Shape) : Nat → Read Shape
  | 0 => fail
  | bound + 1 => do
    if ← passed (.opener (CodePoint.ofChar '(')) then
      let given ← arguments explain bound
      let isEmptySet := shape = .name "set" && given = 0
      trailers explain (if isEmptySet then .value (some "set") else .other) bound
    else if ← passed (.sign ".") then
      match ← peek with
      | some (.name word) =>
        if keywords.contains word || constants.contains word then fail
        else
          pass
          trailers explain .other bound
      | _ => fail
    else pure shape

/-- The arguments of a call up to its closing bracket, by their number. -/
def arguments (explain : Bool) : Nat → Read Nat
  | 0 => fail
  | bound + 1 => do
    if ← passed closingBracket then pure 0
    else
      let _ ← expression explain true bound
      if ← passed (.sign "=") then
        let _ ← expression explain true bound
      if ← passed (.sign ",") then
        let others ← arguments explain bound
        pure (others + 1)
      else
        expect closingBracket
        pure 1

/-- A name, a number, texts in quotes, or what stands in brackets. -/
def atom (explain : Bool) : Nat → Read Shape
  | 0 => fail
  | bound + 1 => do
    match ← peek with
    | some (.name word) =>
      if keywords.contains word then fail
      else
        pass
        pure (if constants.contains word then .value none else .name word)
    | some (.number imaginary) =>
      pass
      pure (.number imaginary false)
    | some (.text _) =>
      let spliced := isSpliced (← get)
      modify behindTexts
      let _ ← peek
      pure (if spliced then .other else .text)
    | some (.sign sign) =>
      if sign = ("..." : Text) then
        pass
        pure (.value none)
      else fail
    | some (.opener bracket) =>
      pass
      if bracket = '(' then group explain bound
      else if bracket = '\x7b' then braced explain bound
      else fail
    | _ => fail

/-- A member of a tuple or set. One that is to be spread has a star. -/
def member (explain : Bool) : Nat → Read Shape
  | 0 => fail
  | bound + 1 => do
    if ← passed (.sign "*") then
      let _ ← operands explain bound
      pure .other
    else
      if explain then assigned bound
      let shape ← expression explain true bound
      if shape matches .name _ then
        if ← passed (.sign ":=") then
          let _ ← expression explain true bound
          pure .other
        else pure shape
      else pure shape

/-- Looks for an equals sign behind a name or a value. -/
def assigned : Nat → Read Unit
  | 0 => pure ()
  | bound + 1 => do
    match ← ahead (operands true bound) with
    | none => pure ()
    | some (shape, behind) =>
      readAt behind (do
        if ← passed (.sign "=") then
          match ← ahead (operands false bound) with
          | none => pure ()
          | some (_, behind) =>
            readAt behind (do
              if !(← meets (.sign "=")) && !(← meets (.sign ":=")) then
                match shape with
                | .name _ => raise .namedValue
                | .number _ false | .text => raise .assignedValue
                | _ => pure ()))

/-- Members with commas between them, up to a closing bracket, and whether a comma came
last. -/
def members (explain : Bool) (closer : Token) : Nat → Read (List Shape × Bool)
  | 0 => fail
  | bound + 1 => do
    if ← passed closer then pure ([], true)
    else
      let first ← member explain bound
      if ← passed (.sign ",") then
        let (others, comma) ← members explain closer bound
        pure (first :: others, comma)
      else
        expect closer
        pure ([first], false)

/-- What stands in round brackets: one expression, or a tuple. -/
def group (explain : Bool) : Nat → Read Shape
  | 0 => fail
  | bound + 1 => do
    if explain && (← meets (.sign "**")) then
      let spread ← ahead (do
        pass
        let _ ← expression false true bound
        expect closingBracket)
      if spread.isSome then raise (.spread true)
    let starred ← meets (.sign "*")
    match ← members explain closingBracket bound with
    | ([shape], false) =>
      if starred then (if explain then raise (.spread false) else fail) else pure shape
    | (shapes, _) => pure (Shape.tuple shapes)

/-- What stands in braces: a set, or a mapping. -/
def braced (explain : Bool) : Nat → Read Shape
  | 0 => fail
  | bound + 1 => do
    if ← passed closingBrace then pure (.value (some "dict"))
    else
      let isPair ← ahead (do
        if !(← passed (.sign "**")) then
          let _ ← expression false true bound
          expect (.sign ":"))
      let outcome ←
        if isPair.isSome then do
          let (keys, values) ← pairs explain bound
          pure (Shape.keyed "dict" keys values)
        else do
          let (shapes, _) ← members explain closingBrace bound
          pure (Shape.keyed "set" shapes [])
      match outcome with
      | .ok shape => pure shape
      | .error fault => raise fault

/-- The pairs of a mapping up to its closing brace. -/
def pairs (explain : Bool) : Nat → Read (List Shape × List Shape)
  | 0 => fail
  | bound + 1 => do
    if ← passed closingBrace then pure ([], [])
    else
      let (key, value) ← pair explain bound
      if ← passed (.sign ",") then
        let (keys, values) ← pairs explain bound
        pure (key :: keys, value :: values)
      else
        expect closingBrace
        pure ([key], [value])

/-- A key and its value, or a mapping that is to be spread. -/
def pair (explain : Bool) : Nat → Read (Shape × Shape)
  | 0 => fail
  | bound + 1 => do
    if ← passed (.sign "**") then
      let _ ← operands explain bound
      pure (.other, .other)
    else
      let key ← expression explain true bound
      if ← passed (.sign ":") then
        if explain && ((← meets closingBrace) || (← meets (.sign ","))) then
          raise .missingValue
        let value ← expression explain true bound
        pure (key, value)
      else if explain then raise .missingColon
      else fail

end

/-- Expressions with commas between them, outside of brackets, and whether a comma came
last. -/
def expressions (explain : Bool) : Nat → Read (List Shape × Bool)
  | 0 => fail
  | bound + 1 => do
    let first ← expression explain false bound
    if ← passed (.sign ",") then
      match ← ahead (expressions explain bound) with
      | some ((others, comma), behind) =>
        set behind
        pure (first :: others, comma)
      | none => pure ([first], true)
    else pure ([first], false)

/-- The shape of all tokens. -/
def whole (explain : Bool) (bound : Nat) : Read Shape := do
  let (shapes, comma) ← expressions explain bound
  if (← get).all (· = .lineEnd) then
    match shapes, comma with
    | [shape], false => pure shape
    | shapes, _ => pure (Shape.tuple shapes)
  else fail

end Read

/-- Refuses tokens that form no value. -/
def checkTokens (tokens : List Token) : Except Fault Unit :=
  let bound := 20 * tokens.length + 20
  match (Read.whole false bound).run tokens with
  | .ok (shape, _) => if shape.isValue then .ok () else .error .notValue
  | .error (.fault fault) => .error fault
  | .error .noMatch =>
    match (Read.whole true bound).run tokens with
    | .error (.fault fault) => .error fault
    | _ => .error .form

/-- Refuses a text that is no value. -/
def checkValue (text : Text) : Except Fault Unit := do
  match Utf8.encode text with
  | .error fault => throw (.unencodable fault)
  | .ok _ =>
    if Text.contains ⟨0, by decide⟩ text then throw .zero
    else
      checkTokens (← Tokens.ofText (Text.normalizeNewlines text))

/-- The part of parameters that must be a value: what stands in brackets behind the name of
a handler, nothing if there is only a name, and else everything. -/
def valueOf (parameters : Text) : Text :=
  let isPart (c : CodePoint) : Bool := Token.isNamePart c || c = '.'
  match parameters.dropWhile isPart with
  | [] => "()"
  | c :: rest =>
    let closed := rest.getLast? = some (CodePoint.ofChar ')')
    if c = '(' && closed && !Text.contains .lineFeed rest then c :: rest else parameters

end SchemaForge.Parameters

import SchemaForge.Schema.Position
import SchemaForge.Text.Quoted

/-!
# Tokens of the schema language

A token has a kind, a decoded value and its place in the text. The schema
language reserves no words: a name such as `type` has a meaning only where a
definition begins, and `isDefinitionKeyword` lists those names because error
recovery looks for them.
-/

namespace SchemaForge

/-- The kinds of token. -/
inductive TokenKind where
  | bang | dollar | amp | leftParen | rightParen | spread | colon | equals | at
  | leftBracket | rightBracket | leftBrace | pipe | rightBrace
  | name | int | float | string | blockString
  | comment | endOfInput
deriving DecidableEq, Inhabited

namespace TokenKind

/-- The label of a kind in messages. -/
def label : TokenKind → Text
  | bang => "BANG"
  | dollar => "DOLLAR"
  | amp => "AMP"
  | leftParen => "LPAREN"
  | rightParen => "RPAREN"
  | spread => "SPREAD"
  | colon => "COLON"
  | equals => "EQUALS"
  | TokenKind.at => "AT"
  | leftBracket => "LBRACKET"
  | rightBracket => "RBRACKET"
  | leftBrace => "LBRACE"
  | pipe => "PIPE"
  | rightBrace => "RBRACE"
  | name => "NAME"
  | int => "INT"
  | float => "FLOAT"
  | string => "STRING"
  | blockString => "BLOCK_STRING"
  | comment => "COMMENT"
  | endOfInput => "EOF"

/-- The punctuator that a single code point spells. -/
def ofPunctuator? (c : CodePoint) : Option TokenKind :=
  if c = '!' then some bang
  else if c = '$' then some dollar
  else if c = '&' then some amp
  else if c = '(' then some leftParen
  else if c = ')' then some rightParen
  else if c = ':' then some colon
  else if c = '=' then some equals
  else if c = '@' then some TokenKind.at
  else if c = '[' then some leftBracket
  else if c = ']' then some rightBracket
  else if c.val = 0x7B then some leftBrace
  else if c = '|' then some pipe
  else if c.val = 0x7D then some rightBrace
  else none

/-- The kinds that open a bracketed group. -/
def opens : TokenKind → Bool
  | leftBrace | leftParen | leftBracket => true
  | _ => false

/-- The kinds that close a bracketed group. -/
def closes : TokenKind → Bool
  | rightBrace | rightParen | rightBracket => true
  | _ => false

/-- The kinds of string literal. -/
def isString : TokenKind → Bool
  | string | blockString => true
  | _ => false

end TokenKind

/-- A token with its place in the text. -/
structure Token where
  /-- The kind of the token. -/
  kind : TokenKind
  /-- What the token says: the spelling, or the decoded value of a string. -/
  value : Text
  /-- The line of the first code point, counted from one. -/
  line : Nat
  /-- The column of the first code point, counted from one. -/
  column : Nat
  /-- The offset of the first code point. -/
  start : Nat
  /-- The offset after the last code point. -/
  stop : Nat
deriving DecidableEq, Inhabited

/-- The names that begin a definition at the top level. -/
def definitionKeywords : List Text :=
  ["schema", "scalar", "type", "interface", "union", "enum", "input", "directive", "extend"]

/-- Whether a name begins a definition at the top level. -/
def isDefinitionKeyword (name : Text) : Bool := definitionKeywords.contains name

namespace Token

/-- A token as it is shown to a developer. -/
def describe (token : Token) : Text :=
  Text.concat ["Token(", token.kind.label, ", ", Text.quoted token.value, ", ",
    Text.ofNat token.line, ":", Text.ofNat token.column, ")"]

/-- A string literal of either form. -/
def isString (token : Token) : Bool := token.kind.isString

/-- A name, whatever it is. -/
def isName (token : Token) : Bool := token.kind = .name

/-- One of the given names, or any name if none is given. -/
def isNameIn (token : Token) (names : List Text) : Bool :=
  token.isName && (names.isEmpty || names.contains token.value)

/-- A name that begins a definition, so that error recovery may stop at it. -/
def beginsDefinition (token : Token) : Bool := token.isNameIn definitionKeywords

/-- Two tokens read the same if only their places differ. -/
def reading (token : Token) : TokenKind × Text := (token.kind, token.value)

end Token

end SchemaForge

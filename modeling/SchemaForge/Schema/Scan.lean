import SchemaForge.Schema.Lexeme

/-!
# Scanning a schema text

`tokenize` reads lexeme after lexeme, skips the ignored code points between them
and gives each token its place. Comments are tokens too, and one token for the
end of input always comes last. The first lexeme that cannot be read stops the
scan, and the place reported is where that lexeme begins.
-/

namespace SchemaForge

/-- A text that is not a sequence of lexemes: the fault, and where the lexeme begins
that could not be read. -/
structure LexicalError where
  /-- What is wrong. -/
  fault : LexicalFault
  /-- Where the unfinished lexeme begins. -/
  place : Position
deriving DecidableEq

namespace Token

/-- The token of a lexeme that begins at a place. -/
def ofLexeme (place : Position) (lexeme : Lexeme) : Token :=
  ⟨lexeme.kind, lexeme.value, place.line, place.column, place.offset,
    place.offset + lexeme.raw.length⟩

/-- The token for the end of input at a place. -/
def finish (place : Position) : Token :=
  ⟨.endOfInput, [], place.line, place.column, place.offset, place.offset⟩

end Token

/-- The tokens of the rest of a text that begins at a place. -/
def scan (place : Position) : Text → Except LexicalError (List Token)
  | [] => .ok [Token.finish place]
  | c :: rest =>
    if c.isIgnored then scan (place.step c) rest
    else
      match found : Lexeme.read c rest with
      | .error fault => .error ⟨fault, place⟩
      | .ok lexeme =>
        have := Lexeme.length_rest_lt found
        match scan (place.through lexeme.raw) lexeme.rest with
        | .error error => .error error
        | .ok tokens => .ok (Token.ofLexeme place lexeme :: tokens)
termination_by text => text.length
decreasing_by
  · simp
  · exact this

/-- The tokens of a whole text. -/
def tokenize (text : Text) : Except LexicalError (List Token) := scan .origin text

end SchemaForge

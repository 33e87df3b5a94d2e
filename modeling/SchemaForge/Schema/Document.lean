import SchemaForge.Schema.Grammar
import SchemaForge.Schema.Scan

/-!
# Schema documents

A document is a sequence of definitions. An error inside one definition does not
stop the reading of the next: the cursor recovers at the next top-level keyword,
and all errors are reported together. A document with any error has no
definitions.
-/

namespace SchemaForge

/-- What was found in a document: its definitions and its errors, each in order. -/
structure DocumentReading where
  /-- The definitions that were accepted. -/
  definitions : List Definition
  /-- The errors, in the order of the tokens they were noticed at. -/
  errors : List GrammarError

namespace DocumentReading

/-- Nothing was found. -/
def empty : DocumentReading := ⟨[], []⟩

/-- One more definition in front. -/
def withDefinition (definition : Definition) (reading : DocumentReading) : DocumentReading :=
  { reading with definitions := definition :: reading.definitions }

/-- One more error in front. -/
def withError (error : GrammarError) (reading : DocumentReading) : DocumentReading :=
  { reading with errors := error :: reading.errors }

/-- Reads definitions up to the end of input. -/
def ofCursor (cursor : Cursor) : DocumentReading :=
  match cursor.rest with
  | [] => empty
  | _ :: _ =>
    match Grammar.definition cursor with
    | .accepted definition moved =>
      if moved.rest.length < cursor.rest.length then
        (ofCursor moved).withDefinition definition
      else empty.withDefinition definition
    | .rejected error stopped =>
      if stopped.recover.rest.length < cursor.rest.length then
        (ofCursor stopped.recover).withError error
      else empty.withError error
termination_by cursor.rest.length

end DocumentReading

/-- Why a text is no schema document. -/
inductive DocumentError where
  /-- The text is not a sequence of tokens. -/
  | lexical (error : LexicalError)
  /-- The tokens are not a sequence of definitions; there is at least one error. -/
  | grammatical (first : GrammarError) (others : List GrammarError)

/-- The definitions of tokens that end with the end of input. -/
def definitionsOfTokens (tokens : List Token) : Except DocumentError (List Definition) :=
  let reading :=
    DocumentReading.ofCursor
      (Cursor.ofTokens tokens.dropLast (tokens.getLastD (Token.finish .origin)))
  match reading.errors with
  | [] => .ok reading.definitions
  | first :: others => .error (.grammatical first others)

/-- The definitions of a schema text, in source order. -/
def parseDocument (text : Text) : Except DocumentError (List Definition) :=
  match tokenize text with
  | .error error => .error (.lexical error)
  | .ok tokens => definitionsOfTokens tokens

end SchemaForge

import SchemaForge.Schema.GrammarFault

/-!
# A cursor over tokens

A cursor stands before the next token of a schema and remembers the last one it
passed and how deep in brackets it is. The depth counts every bracket of the
passed tokens and never falls below zero, whether or not the brackets match.

A production is a function from a cursor to an outcome. A rejected outcome keeps
the cursor where it stopped, because recovery goes on from there. `collect` is the
only loop of the grammar: it ends because it goes on only while the tokens ahead
grow fewer.
-/

namespace SchemaForge

/-- The bracket depth after one more token. -/
def depthAfter (depth : Nat) (kind : TokenKind) : Nat :=
  if kind.opens then depth + 1 else if kind.closes then depth - 1 else depth

/-- A place between two tokens. -/
structure Cursor where
  /-- The tokens ahead, without the one for the end of input. -/
  rest : List Token
  /-- The token for the end of input. -/
  finish : Token
  /-- The token passed last; before the first move, the first token. -/
  previous : Token
  /-- The number of brackets left open by the tokens passed. -/
  depth : Nat
deriving DecidableEq, Inhabited

namespace Cursor

/-- The next token, which is the end of input when no other is left. -/
def current (cursor : Cursor) : Token := cursor.rest.headD cursor.finish

/-- The cursor behind the next token. The end of input is never passed. -/
def advance (cursor : Cursor) : Cursor :=
  match cursor.rest with
  | [] => { cursor with previous := cursor.finish }
  | token :: rest =>
    { cursor with
      rest := rest, previous := token, depth := depthAfter cursor.depth token.kind }

/-- The span from a token to the last token passed. -/
def spanFrom (cursor : Cursor) (first : Token) : Span :=
  ⟨first.start, max cursor.previous.stop first.stop, first.line, first.column⟩

/-- The cursor before the next top-level keyword, or at the end. -/
def seekDefinition (cursor : Cursor) : Cursor :=
  match ahead : cursor.rest with
  | [] => cursor
  | token :: _ =>
    if cursor.depth = 0 && token.beginsDefinition then cursor
    else
      have : cursor.advance.rest.length < cursor.rest.length := by simp [advance, ahead]
      seekDefinition cursor.advance
termination_by cursor.rest.length

/-- Where parsing goes on after an error: past the offending token, and from there to
the next top-level keyword. -/
def recover (cursor : Cursor) : Cursor := cursor.advance.seekDefinition

/-- A cursor before the first of some tokens, comments left out. -/
def ofTokens (tokens : List Token) (finish : Token) : Cursor :=
  let meaningful := tokens.filter (fun token => decide (token.kind ≠ .comment))
  ⟨meaningful, finish, meaningful.headD finish, 0⟩

end Cursor

/-- The result of a production. -/
inductive Outcome (α : Type) where
  /-- The production applies, and the cursor stands behind its last token. -/
  | accepted (value : α) (next : Cursor)
  /-- The production does not apply, and the cursor stands where that was noticed. -/
  | rejected (error : GrammarError) (stopped : Cursor)

/-- A production of the grammar. -/
abbrev Production (α : Type) := Cursor → Outcome α

namespace Production

instance : Monad Production where
  pure value := fun cursor => .accepted value cursor
  bind first next := fun cursor =>
    match first cursor with
    | .accepted value moved => next value moved
    | .rejected error stopped => .rejected error stopped

/-- No production applies here. -/
def reject {α : Type} (fault : GrammarFault) : Production α := fun cursor =>
  .rejected ⟨fault, cursor.current⟩ cursor

/-- The next token, without passing it. -/
def peek : Production Token := fun cursor => .accepted cursor.current cursor

/-- The next token, passing it. -/
def advance : Production Token := fun cursor => .accepted cursor.current cursor.advance

/-- Passes the next token if it is of the given kind, and says whether it was. -/
def accept (kind : TokenKind) : Production Bool := fun cursor =>
  if cursor.current.kind = kind then .accepted true cursor.advance else .accepted false cursor

/-- Passes the next token, which must be of the given kind. -/
def expect (kind : TokenKind) (fault : GrammarFault) : Production Token := fun cursor =>
  if cursor.current.kind = kind then .accepted cursor.current cursor.advance
  else .rejected ⟨fault, cursor.current⟩ cursor

/-- Passes a name and gives its token. -/
def expectName (role : NameRole) : Production Token := expect .name (.expectedName role)

/-- The span from a token to the last token passed. -/
def spanFrom (first : Token) : Production Span := fun cursor =>
  .accepted (cursor.spanFrom first) cursor

/-- Items one after another for as long as the next token allows one more. Each item
may rely on being started with fewer than `limit` tokens ahead. An item that passes
no token would be the last. -/
def collect {α : Type} (continues : Token → Bool) (limit : Nat)
    (item : (cursor : Cursor) → cursor.rest.length < limit → Outcome α)
    (cursor : Cursor) (within : cursor.rest.length < limit) : Outcome (List α) :=
  if continues cursor.current then
    match item cursor within with
    | .rejected error stopped => .rejected error stopped
    | .accepted value moved =>
      if fewer : moved.rest.length < cursor.rest.length then
        match collect continues limit item moved (Nat.lt_trans fewer within) with
        | .accepted values last => .accepted (value :: values) last
        | .rejected error stopped => .rejected error stopped
      else .accepted [value] moved
  else .accepted [] cursor
termination_by cursor.rest.length

/-- Items for as long as the next token allows one more. -/
def many {α : Type} (continues : Token → Bool) (item : Production α) : Production (List α) :=
  fun cursor =>
    collect continues (cursor.rest.length + 1) (fun inner _ => item inner) cursor
      (Nat.lt_succ_self _)

/-- Items up to a closing token, which is passed too. -/
def manyUntil {α : Type} (closer : TokenKind) (item : Production α) : Production (List α) := do
  let values ← many (fun token => decide (token.kind ≠ closer)) item
  let _ ← advance
  pure values

/-- One or more items with a separator between them and possibly one in front. -/
def separated {α : Type} (separator : TokenKind) (item : Production α) :
    Production (List α) := do
  let _ ← accept separator
  let first ← item
  let others ← many (fun token => decide (token.kind = separator)) (do let _ ← advance; item)
  pure (first :: others)

end Production

end SchemaForge

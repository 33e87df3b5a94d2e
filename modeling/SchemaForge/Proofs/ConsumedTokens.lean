import SchemaForge.Proofs.BracketDepth
import SchemaForge.Proofs.NodeShapes

/-!
# The tokens that a production consumes

What a production accepts is made of the tokens between the cursor in front of it and the
cursor behind it. `Passes` says that these tokens are given pieces, and that the last of them
is the one the second cursor remembers. A span that is taken there therefore ends with it, and
`Passes.node` turns the pieces of a node into the node.

The productions for values, types, directives and members follow one by one. In each the pieces
are put together in the order in which they are read.
-/

namespace SchemaForge

open Production Grammar

/-! ## Passing pieces -/

/-- A cursor before tokens in order, with the end of input behind them. -/
structure Cursor.Ready (cursor : Cursor) : Prop where
  /-- The input ends with the token for it. -/
  ended : cursor.finish.kind = .endOfInput
  /-- The tokens ahead are in order. -/
  ordered : InOrder cursor.rest

/-- A cursor has passed tokens that are the given pieces. -/
structure Passes (cursor moved : Cursor) (pieces : List Piece) : Prop where
  /-- The input is the same. -/
  finish : moved.finish = cursor.finish
  /-- The tokens passed are the pieces, and the last of them is remembered. -/
  consumed : ∃ tokens, cursor.rest = tokens ++ moved.rest ∧
    moved.previous = tokens.getLast?.getD cursor.previous ∧ Fits Located tokens pieces

namespace Passes

variable {cursor moved last : Cursor} {pieces further : List Piece}

/-- Nothing is passed by standing still. -/
theorem refl (cursor : Cursor) : Passes cursor cursor [] := ⟨rfl, [], rfl, rfl, .done⟩

/-- Pieces behind pieces. -/
theorem trans (front : Passes cursor moved pieces) (behind : Passes moved last further) :
    Passes cursor last (pieces ++ further) := by
  obtain ⟨finish, tokens, rest, previous, fits⟩ := front
  obtain ⟨finishLast, others, restLast, previousLast, fitsLast⟩ := behind
  refine ⟨finishLast.trans finish, tokens ++ others, ?_, ?_, fits.append fitsLast⟩
  · rw [rest, restLast, List.append_assoc]
  · rw [previousLast, previous, List.getLast?_append, Option.getD_or]

/-- What is ahead stays in order. -/
theorem ready (passes : Passes cursor moved pieces) (ready : cursor.Ready) : moved.Ready := by
  obtain ⟨finish, tokens, rest, -, -⟩ := passes
  refine ⟨finish ▸ ready.ended, ready.ordered.of_sublist ?_⟩
  rw [rest]
  exact List.sublist_append_right tokens moved.rest

/-- A token other than the end of input is passed as a piece that stands for it. -/
theorem advance {piece : Piece} (ready : cursor.Ready) (inside : cursor.current.kind ≠ .endOfInput)
    (admits : piece.Admits cursor.current) : Passes cursor cursor.advance [piece] := by
  unfold Cursor.current at inside admits
  cases ahead : cursor.rest with
  | nil =>
    rw [ahead] at inside
    exact absurd ready.ended inside
  | cons token tokens =>
    rw [ahead] at admits
    refine ⟨Cursor.advance_finish, [token], ?_, ?_, .token admits .done⟩
    · rw [Cursor.advance_rest, ahead]
      rfl
    · simp [Cursor.advance, ahead]

/-- A mark is passed where it is ahead. -/
theorem mark {kind : TokenKind} (ready : cursor.Ready) (found : cursor.current.kind = kind)
    (proper : kind ≠ .endOfInput) : Passes cursor cursor.advance [.mark kind] :=
  advance ready (found ▸ proper) found

/-- Marks that may be missing are missing where nothing is passed. -/
theorem missing (cursor : Cursor) (kinds : List TokenKind) :
    Passes cursor cursor [.optional kinds] := ⟨rfl, [], rfl, rfl, .absent .done⟩

/-- Marks that may be missing are there where they are passed. -/
theorem optional (kinds : List TokenKind) (passes : Passes cursor moved (kinds.map .mark)) :
    Passes cursor moved [.optional kinds] := by
  obtain ⟨finish, tokens, rest, previous, fits⟩ := passes
  have marks : tokens.map Token.kind = kinds := by
    clear rest previous
    induction kinds generalizing tokens with
    | nil =>
      cases fits
      rfl
    | cons kind kinds inductionHypothesis =>
      cases fits with
      | token admits further => rw [List.map_cons, admits, inductionHypothesis _ further]
  refine ⟨finish, tokens, rest, previous, ?_⟩
  rw [← List.append_nil tokens, ← marks]
  exact .present .done

end Passes

/-- A piece that is one token. -/
def Piece.isToken : Piece → Bool
  | word _ | mark _ | quoted _ => true
  | optional _ | node _ => false

/-- Pieces with a token among them are some tokens. -/
theorem Fits.ne_nil {located : List Token → SyntaxNode → Prop} {tokens : List Token}
    {pieces : List Piece} (fits : Fits located tokens pieces)
    (own : pieces.any Piece.isToken = true) : tokens ≠ [] := by
  induction fits with
  | done => cases own
  | token _ _ _ => exact List.cons_ne_nil _ _
  | absent _ inductionHypothesis => exact inductionHypothesis own
  | present _ inductionHypothesis =>
    exact List.append_ne_nil_of_right_ne_nil _ (inductionHypothesis own)
  | node _ _ inductionHypothesis =>
    exact List.append_ne_nil_of_right_ne_nil _ (inductionHypothesis own)

/-- Every node has a token of its own. -/
theorem Piece.ofNode_own (node : SyntaxNode) : (ofNode node).any isToken = true := by
  cases node with
  | definition given =>
    cases given <;> simp [ofNode, ofDefinition, ofFielded, name, isToken, enclosed]
  | type given => cases given <;> simp [ofNode, ofType, name, isToken, enclosed]
  | value given => cases given <;> simp [ofNode, ofValue, name, isToken, enclosed]
  | _ => simp [ofNode, name, isToken]

/-- The pieces of a node are the node, if its span was taken behind them from the token that
was ahead of them. -/
theorem Passes.node {cursor moved : Cursor} {node : SyntaxNode} (ready : cursor.Ready)
    (passes : Passes cursor moved (Piece.ofNode node))
    (span : node.span = moved.spanFrom cursor.current) : Passes cursor moved [.node node] := by
  obtain ⟨finish, tokens, rest, previous, fits⟩ := passes
  obtain ⟨first, others, rfl⟩ := List.exists_cons_of_ne_nil (fits.ne_nil (Piece.ofNode_own node))
  obtain ⟨last, ends⟩ : ∃ last, (first :: others).getLast? = some last :=
    ⟨_, List.getLast?_eq_some_getLast (List.cons_ne_nil first others)⟩
  have current : cursor.current = first := by rw [Cursor.current, rest]; rfl
  have remembered : moved.previous = last := by rw [previous, ends]; rfl
  have before : first.stop ≤ last.stop := by
    have ordered : InOrder (first :: others) :=
      ready.ordered.of_sublist (rest ▸ List.sublist_append_left _ _)
    exact ordered.le_last ends List.mem_cons_self
  have exact : node.span = ⟨first.start, last.stop, first.line, first.column⟩ := by
    rw [span, current, Cursor.spanFrom, remembered, Nat.max_eq_left before]
  have located : Located (first :: others) node := .intro fits rfl ends exact
  refine ⟨finish, first :: others, rest, previous, ?_⟩
  rw [← List.append_nil (first :: others)]
  exact .node located .done

/-- A production passes the pieces of what it accepts. -/
def Consumes {α : Type} (production : Production α) (pieces : α → List Piece) : Prop :=
  ∀ {cursor moved : Cursor} {value : α}, cursor.Ready →
    production cursor = .accepted value moved → Passes cursor moved (pieces value)

/-- Behind the pieces passed so far, a production passes its own. -/
theorem Passes.next {α : Type} {production : Production α} {further : α → List Piece}
    {cursor moved last : Cursor} {pieces : List Piece} {value : α}
    (passed : Passes cursor moved pieces) (ready : cursor.Ready)
    (consumes : Consumes production further)
    (accepted : production moved = .accepted value last) :
    Passes cursor last (pieces ++ further value) :=
  passed.trans (consumes (passed.ready ready) accepted)

/-! ## Tokens and loops -/

section Combined

variable {α β : Type}

/-- A wanted token is passed as a piece of its kind. -/
theorem expect_consumes {kind : TokenKind} (fault : GrammarFault) (proper : kind ≠ .endOfInput) :
    Consumes (expect kind fault) (fun _ => [.mark kind]) := by
  intro cursor moved token ready accepted
  obtain ⟨matched, -, rfl⟩ := expect_accepted.mp accepted
  exact .mark ready matched proper

/-- A wanted name is passed as itself. -/
theorem expectName_consumes (role : NameRole) :
    Consumes (expectName role) (fun token => [Piece.name token.value]) := by
  intro cursor moved token ready accepted
  obtain ⟨matched, rfl, rfl⟩ := expect_accepted.mp accepted
  exact .advance ready (by rw [matched]; decide) (congrArg (·, cursor.current.value) matched)

/-- A mark that may be missing is passed if it is there. -/
theorem accept_consumes {kind : TokenKind} (proper : kind ≠ .endOfInput) :
    Consumes (accept kind) (fun _ => [.optional [kind]]) := by
  intro cursor moved found ready accepted
  obtain ⟨matched, -, rfl⟩ | ⟨-, -, rfl⟩ := accept_accepted.mp accepted
  · have passed := Passes.mark ready matched proper
    exact passed.optional [kind]
  · exact .missing cursor [kind]

/-- A description is passed if there is one. -/
theorem description_consumes : Consumes description Piece.described := by
  intro cursor moved value ready accepted
  simp only [description, bind_accepted, peek_accepted] at accepted
  obtain ⟨_, _, ⟨rfl, rfl⟩, given⟩ := accepted
  split at given
  · next quoted =>
    simp only [bind_accepted, advance_accepted, pure_accepted] at given
    obtain ⟨_, _, ⟨-, rfl⟩, rfl, rfl⟩ := given
    have inside : cursor.current.kind ≠ .endOfInput := by
      intro ended
      rw [Token.isString, ended] at quoted
      cases quoted
    exact .advance ready inside ⟨quoted, rfl⟩
  · obtain ⟨rfl, rfl⟩ := pure_accepted.mp given
    exact .refl cursor

/-- A loop passes the pieces of its items. By induction on the tokens ahead. -/
theorem collect_consumes {continues : Token → Bool} {limit : Nat}
    {item : (cursor : Cursor) → cursor.rest.length < limit → Outcome α} {pieces : α → List Piece}
    (each : ∀ {cursor moved value} (within : cursor.rest.length < limit), cursor.Ready →
      continues cursor.current = true → item cursor within = .accepted value moved →
        Passes cursor moved (pieces value))
    {cursor last : Cursor} {values : List α} {within : cursor.rest.length < limit}
    (ready : cursor.Ready)
    (accepted : collect continues limit item cursor within = .accepted values last) :
    Passes cursor last (values.flatMap pieces) := by
  induction size : cursor.rest.length using Nat.strongRecOn generalizing cursor values with
  | ind size inductionHypothesis =>
    unfold collect at accepted
    split at accepted
    · next allowed =>
      cases result : item cursor within with
      | rejected error stopped => simp [result] at accepted
      | accepted value moved =>
        have first := each within ready allowed result
        simp only [result] at accepted
        split at accepted
        · next fewer =>
          cases looped : collect continues limit item moved (Nat.lt_trans fewer within) with
          | rejected error stopped => simp [looped] at accepted
          | accepted others behind =>
            simp only [looped] at accepted
            obtain ⟨rfl, rfl⟩ := Outcome.accepted.inj accepted
            have rest := inductionHypothesis _ (size ▸ fewer) (first.ready ready) looped rfl
            exact first.trans rest
        · obtain ⟨rfl, rfl⟩ := Outcome.accepted.inj accepted
          rw [List.flatMap_singleton]
          exact first
    · obtain ⟨rfl, rfl⟩ := Outcome.accepted.inj accepted
      exact .refl cursor

/-- A loop up to a closing mark passes the pieces of its items, and the mark behind them. -/
theorem collectUntil_consumes {closer : TokenKind} (proper : closer ≠ .endOfInput) {limit : Nat}
    {item : (cursor : Cursor) → cursor.rest.length < limit → Outcome α} {view : α → β}
    {phrase : Phrase β} {ends : List Reading → Prop} {kinds : List TokenKind}
    (reads : ReadsWithin limit item view phrase (fun _ => true) ends)
    (begins : BeginsWith kinds phrase) {node : α → SyntaxNode}
    (each : ∀ {cursor moved value} (within : cursor.rest.length < limit), cursor.Ready →
      item cursor within = .accepted value moved → Passes cursor moved [.node (node value)])
    {cursor last : Cursor} {values : List α} {within : cursor.rest.length < limit}
    (ready : cursor.Ready)
    (accepted : collect (fun token => decide (token.kind ≠ closer)) limit item cursor within =
      .accepted values last) :
    Passes cursor last.advance (Piece.nodes node values ++ [.mark closer]) := by
  have stopped := collectUntil_stops reads begins ready.ended accepted
  have inside := collect_consumes (fun within ready _ => each within ready) ready accepted
  rw [← List.map_eq_flatMap] at inside
  exact inside.trans (.mark (inside.ready ready) stopped proper)

variable {item : Production α} {view : α → β} {phrase : Phrase β} {ends : List Reading → Prop}
  {kinds : List TokenKind}

/-- Nodes up to a closing mark. -/
theorem manyUntil_consumes {closer : TokenKind} (proper : closer ≠ .endOfInput)
    (reads : Reads item view phrase Anywhere ends) (begins : BeginsWith kinds phrase)
    {node : α → SyntaxNode} (each : Consumes item (fun value => [.node (node value)])) :
    Consumes (manyUntil closer item)
      (fun values => Piece.nodes node values ++ [.mark closer]) := by
  intro cursor moved values ready accepted
  simp only [manyUntil, bind_accepted, advance_accepted, pure_accepted] at accepted
  obtain ⟨_, before, looped, _, _, ⟨-, rfl⟩, rfl, rfl⟩ := accepted
  have within : ReadsWithin (cursor.rest.length + 1) (fun inner _ => item inner) view phrase
      (fun _ => true) ends :=
    ⟨fun _ sees _ => reads.sound sees trivial, fun _ sees => reads.complete sees⟩
  exact collectUntil_consumes proper within begins (fun _ => each) ready looped

/-- Pieces between separators. -/
theorem separated_consumes {separator : TokenKind} (proper : separator ≠ .endOfInput)
    {piece : α → Piece} (each : Consumes item (fun value => [piece value])) :
    Consumes (separated separator item)
      (fun values => Piece.separated separator (values.map piece)) := by
  have further : ∀ {cursor moved value}, cursor.Ready → cursor.current.kind = separator →
      (do let _ ← Production.advance; item : Production α) cursor = .accepted value moved →
        Passes cursor moved [.mark separator, piece value] := by
    intro cursor moved value ready found accepted
    simp only [bind_accepted, advance_accepted] at accepted
    obtain ⟨_, _, ⟨-, rfl⟩, given⟩ := accepted
    have marked := Passes.mark ready found proper
    exact marked.trans (each (marked.ready ready) given)
  intro cursor moved values ready accepted
  simp only [separated, bind_accepted, accept_accepted, pure_accepted] at accepted
  obtain ⟨_, start, leading, first, behind, read, others, _, looped, rfl, rfl⟩ := accepted
  have led := accept_consumes proper ready (accept_accepted.mpr leading)
  have began := led.next ready each read
  have rest := collect_consumes
    (fun _ ready found => further ready (of_decide_eq_true found)) (began.ready ready) looped
  have whole := began.trans rest
  rw [List.append_assoc] at whole
  simpa [Piece.separated, List.flatMap_map] using whole

end Combined

/-! ## Types and values -/

/-- A mention of a type is a node. -/
theorem namedType_consumes : Consumes namedType (fun type => [.node (.type (.named type))]) := by
  intro cursor moved type ready accepted
  simp only [namedType, bind_accepted, spanFrom_accepted, pure_accepted] at accepted
  obtain ⟨token, _, naming, _, _, ⟨rfl, rfl⟩, rfl, rfl⟩ := accepted
  have named := expectName_consumes _ ready naming
  obtain ⟨-, rfl, -⟩ := expect_accepted.mp naming
  exact .node ready named rfl

/-- An exclamation mark makes a node of the type in front of it. -/
theorem nullability_consumes {cursor moved last : Cursor} {type value : TypeReference}
    (ready : cursor.Ready) (passes : Passes cursor moved [.node (.type type)])
    (accepted : nullability cursor.current type moved = .accepted value last) :
    Passes cursor last [.node (.type value)] := by
  simp only [nullability, bind_accepted, accept_accepted] at accepted
  obtain ⟨_, _, ⟨matched, rfl, rfl⟩ | ⟨-, rfl, rfl⟩, given⟩ := accepted
  · simp only [↓reduceIte, bind_accepted, spanFrom_accepted, pure_accepted] at given
    obtain ⟨_, _, ⟨rfl, rfl⟩, rfl, rfl⟩ := given
    have marked := Passes.mark (passes.ready ready) matched (by decide)
    exact .node ready (passes.trans marked) rfl
  · obtain ⟨rfl, rfl⟩ := pure_accepted.mp given
    exact passes

/-- A type reference is a node. By induction on the tokens ahead, since the element of a list
is read behind the bracket. -/
theorem typeReference_consumes : Consumes typeReference (fun type => [.node (.type type)]) := by
  intro cursor moved type ready accepted
  induction size : cursor.rest.length using Nat.strongRecOn generalizing cursor moved type with
  | ind size inductionHypothesis =>
    have sees : cursor.Sees (cursor.rest.map Token.reading) := ⟨rfl, ready.ended⟩
    by_cases bracket : nextKind (cursor.rest.map Token.reading) = .leftBracket
    · have kind : cursor.current.kind = .leftBracket := sees.kind.trans bracket
      obtain ⟨spelling, others, words⟩ := exists_of_nextKind bracket (by decide)
      rw [words] at sees
      simp only [typeReference_bracketed sees, bind_accepted, spanFrom_accepted] at accepted
      obtain ⟨element, _, inner, _, _, closing, _, _, ⟨rfl, rfl⟩, marked⟩ := accepted
      have opened := Passes.mark ready kind (by decide)
      have within := opened.trans
        (inductionHypothesis _ (size ▸ sees.fewer) (opened.ready ready) inner rfl)
      have closed := within.next ready (expect_consumes _ (by decide)) closing
      exact nullability_consumes ready (.node ready closed rfl) marked
    · simp only [typeReference_bare sees bracket, bind_accepted] at accepted
      obtain ⟨type, _, named, marked⟩ := accepted
      exact nullability_consumes ready (namedType_consumes ready named) marked

/-- A value that one word spells is that word. -/
theorem leafValue_pieces {span : Span} {word : Reading} {value : Value}
    (spelled : leafValue span word = some value) :
    word.1 ≠ .endOfInput ∧ Piece.ofNode (.value value) = [.word word] ∧ value.span = span := by
  obtain ⟨kind, text⟩ := word
  cases kind with
  | string | blockString | int | float =>
    cases spelled
    exact ⟨nofun, rfl, rfl⟩
  | name =>
    refine ⟨nofun, ?_⟩
    simp only [leafValue] at spelled
    repeat
      split at spelled
      · next same =>
        cases spelled
        rw [same]
        exact ⟨rfl, rfl⟩
    cases spelled
    exact ⟨rfl, rfl⟩
  | _ => cases spelled

/-- A field of an object is a node, if its value is. -/
theorem objectField_consumes {cursor moved : Cursor} {field : ObjectField}
    {value : (inner : Cursor) → inner.rest.length < cursor.rest.length → Outcome Value}
    (inside : ∀ {inner behind given} (fewer : inner.rest.length < cursor.rest.length),
      inner.Ready → value inner fewer = .accepted given behind →
        Passes inner behind [.node (.value given)])
    (ready : cursor.Ready) (accepted : objectField cursor value = .accepted field moved) :
    Passes cursor moved [.node (.objectField field)] := by
  simp only [objectField, bind_accepted, spanFrom_accepted, pure_accepted] at accepted
  obtain ⟨_, _, naming, _, _, dividing, _, _, valued, _, _, ⟨rfl, rfl⟩, rfl, rfl⟩ := accepted
  have named := expectName_consumes _ ready naming
  have divided := named.next ready (expect_consumes _ (by decide)) dividing
  obtain ⟨-, rfl, -⟩ := expect_accepted.mp naming
  split at valued
  · next fewer =>
    exact .node ready (divided.trans (inside fewer (divided.ready ready) valued)) rfl
  · exact (reject_accepted.mp valued).elim

/-- A constant is a node, if the constants inside it are. -/
theorem constant_consumesWithin {cursor moved : Cursor} {value : Value}
    (inside : ∀ {inner behind value}, inner.rest.length < cursor.rest.length → inner.Ready →
      constant inner = .accepted value behind → Passes inner behind [.node (.value value)])
    (ready : cursor.Ready) (accepted : constant cursor = .accepted value moved) :
    Passes cursor moved [.node (.value value)] := by
  have sees : cursor.Sees (cursor.rest.map Token.reading) := ⟨rfl, ready.ended⟩
  cases words : cursor.rest.map Token.reading with
  | nil =>
    rw [words] at sees
    exact (constant_nil sees accepted).elim
  | cons word others =>
    rw [words] at sees
    obtain ⟨kind, spelling⟩ := word
    have same : cursor.current.kind = kind := sees.kind
    by_cases list : kind = .leftBracket
    · subst list
      obtain ⟨values, before, looped, rfl, rfl⟩ := (constant_list sees sees.fewer).mp accepted
      have opened := Passes.mark ready same (by decide)
      have closed := collectUntil_consumes (by decide) (constant_within _) constant_begins
        (fun within => inside within) (opened.ready ready) looped
      exact .node ready (opened.trans closed) rfl
    · by_cases object : kind = .leftBrace
      · subst object
        obtain ⟨fields, before, looped, rfl, rfl⟩ := (constant_object sees sees.fewer).mp accepted
        have opened := Passes.mark ready same (by decide)
        have closed := collectUntil_consumes (by decide) (objectField_within (constant_within _))
          objectField_begins
          (fun within => objectField_consumes (fun fewer => inside (Nat.lt_trans fewer within)))
          (opened.ready ready) looped
        exact .node ready (opened.trans closed) rfl
      · obtain ⟨spelled, rfl⟩ := (constant_leaf sees list object).mp accepted
        obtain ⟨proper, pieces, span⟩ := leafValue_pieces spelled
        have passed : Passes cursor cursor.advance [.word (kind, spelling)] :=
          .advance ready (same ▸ proper) sees.current
        exact .node ready (pieces ▸ passed) span

/-- A constant is a node. By induction on the tokens ahead. -/
theorem constant_consumes : Consumes constant (fun value => [.node (.value value)]) := by
  intro cursor moved value ready accepted
  induction size : cursor.rest.length using Nat.strongRecOn generalizing cursor moved value with
  | ind size inductionHypothesis =>
    refine constant_consumesWithin ?_ ready accepted
    intro inner behind value fewer ready accepted
    exact inductionHypothesis _ (size ▸ fewer) ready accepted rfl

/-! ## Directives and members -/

/-- An argument is a node. -/
theorem argument_consumes : Consumes argument (fun given => [.node (.argument given)]) := by
  intro cursor moved value ready accepted
  simp only [argument, bind_accepted, spanFrom_accepted, pure_accepted] at accepted
  obtain ⟨_, _, naming, _, _, dividing, _, _, valuing, _, _, ⟨rfl, rfl⟩, rfl, rfl⟩ := accepted
  have named := expectName_consumes _ ready naming
  have divided := named.next ready (expect_consumes _ (by decide)) dividing
  have valued := divided.next ready constant_consumes valuing
  obtain ⟨-, rfl, -⟩ := expect_accepted.mp naming
  exact .node ready valued rfl

/-- Nodes in parentheses, which must hold at least one. -/
theorem parenthesized_consumes {α β : Type} {item : Production α} {view : α → β}
    {phrase : Phrase β} {ends : List Reading → Prop} {kinds : List TokenKind}
    (reads : Reads item view phrase Anywhere ends) (begins : BeginsWith kinds phrase)
    {node : α → SyntaxNode} (each : Consumes item (fun value => [.node (node value)]))
    (fault : GrammarFault) :
    Consumes (do
        if ← accept .leftParen then
          let given ← manyUntil .rightParen item
          if given.isEmpty then reject fault else pure given
        else pure [])
      (fun values => Piece.parenthesized (Piece.nodes node values)) := by
  intro cursor moved values ready accepted
  simp only [bind_accepted, accept_accepted] at accepted
  obtain ⟨_, _, ⟨opened, rfl, rfl⟩ | ⟨-, rfl, rfl⟩, behind⟩ := accepted
  · simp only [↓reduceIte, bind_accepted] at behind
    obtain ⟨given, _, listed, checked⟩ := behind
    have opening := Passes.mark ready opened (by decide)
    have closed := opening.next ready (manyUntil_consumes (by decide) reads begins each) listed
    cases given with
    | nil => exact (reject_accepted.mp checked).elim
    | cons value others =>
      obtain ⟨rfl, rfl⟩ := pure_accepted.mp checked
      exact closed
  · obtain ⟨rfl, rfl⟩ := pure_accepted.mp behind
    exact .refl cursor

/-- Arguments, together with their parentheses. -/
theorem arguments_consumes :
    Consumes arguments (fun given => Piece.parenthesized (Piece.nodes .argument given)) :=
  parenthesized_consumes argument_reads argument_begins argument_consumes _

/-- A directive is a node. It is asked for only at its sign. -/
theorem directive_consumes {cursor moved : Cursor} {value : Directive} (ready : cursor.Ready)
    (sign : cursor.current.kind = TokenKind.at)
    (accepted : directive cursor = .accepted value moved) :
    Passes cursor moved [.node (.directive value)] := by
  simp only [directive, bind_accepted, advance_accepted, spanFrom_accepted,
    pure_accepted] at accepted
  obtain ⟨_, _, ⟨rfl, rfl⟩, _, _, naming, _, _, listing, _, _, ⟨rfl, rfl⟩, rfl, rfl⟩ := accepted
  have signed := Passes.mark ready sign (by decide)
  have named := signed.next ready (expectName_consumes _) naming
  have listed := named.next ready arguments_consumes listing
  exact .node ready listed rfl

/-- Directives are nodes one behind the other. -/
theorem directives_consumes : Consumes directives Piece.directives := by
  intro cursor moved values ready accepted
  have passed := collect_consumes
    (fun _ ready sign read => directive_consumes ready (of_decide_eq_true sign) read) ready accepted
  rwa [← List.map_eq_flatMap] at passed

/-- A default value is a node behind its mark. -/
theorem defaultValue_consumes :
    Consumes defaultValue
      (fun value => Piece.introduced (.mark .equals) (Piece.nodes .value value.toList)) := by
  intro cursor moved value ready accepted
  simp only [defaultValue, bind_accepted, accept_accepted] at accepted
  obtain ⟨_, _, ⟨marked, rfl, rfl⟩ | ⟨-, rfl, rfl⟩, behind⟩ := accepted
  · simp only [↓reduceIte, bind_accepted, pure_accepted] at behind
    obtain ⟨given, _, valuing, rfl, rfl⟩ := behind
    have passed := Passes.mark ready marked (by decide)
    exact passed.trans (constant_consumes (passed.ready ready) valuing)
  · obtain ⟨rfl, rfl⟩ := pure_accepted.mp behind
    exact .refl cursor

/-- An input value is a node, its description included. -/
theorem inputValue_consumes : Consumes inputValue (fun value => [.node (.inputValue value)]) := by
  intro cursor moved value ready accepted
  simp only [inputValue, bind_accepted, peek_accepted, spanFrom_accepted,
    pure_accepted] at accepted
  obtain ⟨_, _, ⟨rfl, rfl⟩, _, _, describing, _, _, naming, _, _, dividing, _, _, typing, _, _,
    defaulting, _, _, applying, _, _, ⟨rfl, rfl⟩, rfl, rfl⟩ := accepted
  have described := description_consumes ready describing
  have named := described.next ready (expectName_consumes _) naming
  have divided := named.next ready (expect_consumes _ (by decide)) dividing
  have typed := divided.next ready typeReference_consumes typing
  have defaulted := typed.next ready defaultValue_consumes defaulting
  have applied := defaulted.next ready directives_consumes applying
  refine .node ready ?_ rfl
  simpa [Piece.ofNode] using applied

/-- The arguments that are declared, together with their parentheses. -/
theorem argumentDeclarations_consumes :
    Consumes argumentDeclarations
      (fun declared => Piece.parenthesized (Piece.nodes .inputValue declared)) :=
  parenthesized_consumes inputValue_reads inputValue_begins inputValue_consumes _

/-- A field is a node, its description included. -/
theorem field_consumes : Consumes field (fun value => [.node (.field value)]) := by
  intro cursor moved value ready accepted
  simp only [field, bind_accepted, peek_accepted, spanFrom_accepted, pure_accepted] at accepted
  obtain ⟨_, _, ⟨rfl, rfl⟩, _, _, describing, _, _, naming, _, _, listing, _, _, dividing, _, _,
    typing, _, _, applying, _, _, ⟨rfl, rfl⟩, rfl, rfl⟩ := accepted
  have described := description_consumes ready describing
  have named := described.next ready (expectName_consumes _) naming
  have listed := named.next ready argumentDeclarations_consumes listing
  have divided := listed.next ready (expect_consumes _ (by decide)) dividing
  have typed := divided.next ready typeReference_consumes typing
  have applied := typed.next ready directives_consumes applying
  refine .node ready ?_ rfl
  simpa [Piece.ofNode] using applied

/-- A value of an enumeration is a node, its description included. -/
theorem enumMember_consumes : Consumes enumMember (fun value => [.node (.enumMember value)]) := by
  intro cursor moved value ready accepted
  simp only [enumMember, bind_accepted, peek_accepted] at accepted
  obtain ⟨_, _, ⟨rfl, rfl⟩, _, _, describing, _, _, naming, rest⟩ := accepted
  have described := description_consumes ready describing
  have named := described.next ready (expectName_consumes _) naming
  split at rest
  · cases rest
  · simp only [bind_accepted, spanFrom_accepted, pure_accepted] at rest
    obtain ⟨_, _, applying, _, _, ⟨rfl, rfl⟩, rfl, rfl⟩ := rest
    have applied := named.next ready directives_consumes applying
    refine .node ready ?_ rfl
    simpa [Piece.ofNode] using applied

end SchemaForge

import SchemaForge.Proofs.ConsumedTokens
import SchemaForge.Proofs.DocumentComposition
import SchemaForge.Proofs.TokenTiling

/-!
# Spans are exact and nested

Every node of a document covers the tokens that it was read from, from the first to the last,
with the description of a definition or a member included. Since the tokens of a text tile it,
spans lie inside the text and are not empty, a node lies within the one around it, and nodes
side by side do not overlap. The definitions of a document follow one another in the same way,
and outside of them there are no tokens but comments and the end of input.
-/

namespace SchemaForge

open Production Grammar

/-! ## Parts of definitions -/

/-- One of some words is a name. -/
theorem Token.reading_of_isNameIn {token : Token} {names : List Text} (some : names ≠ [])
    (given : token.isNameIn names = true) :
    token.reading = (.name, token.value) ∧ token.value ∈ names := by
  simp only [isNameIn, isName, Bool.and_eq_true, Bool.or_eq_true, decide_eq_true_eq,
    List.isEmpty_iff, List.contains_iff_mem] at given
  obtain ⟨named, member⟩ := given
  exact ⟨congrArg (·, token.value) named, member.resolve_left some⟩

/-- A name is passed as itself. -/
theorem Passes.word {cursor : Cursor} {word : Text} (ready : cursor.Ready)
    (given : cursor.current.reading = (.name, word)) :
    Passes cursor cursor.advance [Piece.name word] := by
  have kind : cursor.current.kind = .name := congrArg Prod.fst given
  exact .advance ready (by rw [kind]; decide) given

/-- A keyword is passed as itself. -/
theorem Passes.keyword {cursor : Cursor} {word : Text} (ready : cursor.Ready)
    (given : cursor.current.isNameIn [word] = true) :
    Passes cursor cursor.advance [Piece.name word] := by
  obtain ⟨reading, member⟩ := Token.reading_of_isNameIn (List.cons_ne_nil word []) given
  exact .word ready (List.mem_singleton.mp member ▸ reading)

/-- Members in braces, which may be missing around none. -/
theorem braced_consumes {α β : Type} {item : Production α} {view : α → β} {phrase : Phrase β}
    {ends : List Reading → Prop} {kinds : List TokenKind}
    (reads : Reads item view phrase Anywhere ends) (begins : BeginsWith kinds phrase)
    {node : α → SyntaxNode} (each : Consumes item (fun value => [.node (node value)])) :
    Consumes (braced item) (fun values => Piece.braced (Piece.nodes node values)) := by
  intro cursor moved values ready accepted
  simp only [braced, bind_accepted, accept_accepted] at accepted
  obtain ⟨_, _, ⟨opened, rfl, rfl⟩ | ⟨-, rfl, rfl⟩, behind⟩ := accepted
  · have opening := Passes.mark ready opened (by decide)
    have closed := opening.next ready (manyUntil_consumes (by decide) reads begins each) behind
    cases values with
    | nil => exact closed.optional [.leftBrace, .rightBrace]
    | cons value others => exact closed
  · obtain ⟨rfl, rfl⟩ := pure_accepted.mp behind
    exact .missing cursor _

/-- A list between separators is not empty. -/
theorem separated_ne_nil {α : Type} {separator : TokenKind} {item : Production α}
    {cursor moved : Cursor} {values : List α}
    (accepted : separated separator item cursor = .accepted values moved) : values ≠ [] := by
  simp only [separated, bind_accepted, pure_accepted] at accepted
  obtain ⟨_, _, -, _, _, -, _, _, -, rfl, -⟩ := accepted
  exact List.cons_ne_nil _ _

/-- Mentions of types between separators, behind what introduces them. -/
theorem introduced_consumes {separator : TokenKind} (proper : separator ≠ .endOfInput)
    {lead : Piece} {cursor moved last : Cursor} {types : List NamedType} (ready : cursor.Ready)
    (passed : Passes cursor moved [lead])
    (accepted : separated separator namedType moved = .accepted types last) :
    Passes cursor last
      (Piece.introduced lead (Piece.separated separator (Piece.mentions types))) := by
  have listed :=
    passed.next ready (separated_consumes proper namedType_consumes) accepted
  cases types with
  | nil => exact absurd rfl (separated_ne_nil accepted)
  | cons type types => exact listed

/-- The interfaces behind their word. -/
theorem interfaces_consumes :
    Consumes interfaces (fun types =>
      Piece.introduced (Piece.name "implements")
        (Piece.separated .amp (Piece.mentions types))) := by
  intro cursor moved types ready accepted
  simp only [interfaces, bind_accepted, peek_accepted] at accepted
  obtain ⟨_, _, ⟨rfl, rfl⟩, decided⟩ := accepted
  split at decided
  · next given =>
    simp only [bind_accepted, advance_accepted] at decided
    obtain ⟨_, _, ⟨-, rfl⟩, listing⟩ := decided
    exact introduced_consumes (by decide) ready (.keyword ready given) listing
  · obtain ⟨rfl, rfl⟩ := pure_accepted.mp decided
    exact .refl cursor

/-- The members of a union behind their mark. -/
theorem unionMembers_consumes :
    Consumes unionMembers (fun types =>
      Piece.introduced (.mark .equals) (Piece.separated .pipe (Piece.mentions types))) := by
  intro cursor moved types ready accepted
  simp only [unionMembers, bind_accepted, accept_accepted] at accepted
  obtain ⟨_, _, ⟨marked, rfl, rfl⟩ | ⟨-, rfl, rfl⟩, behind⟩ := accepted
  · exact introduced_consumes (by decide) ready
      (.mark ready marked (by decide)) behind
  · obtain ⟨rfl, rfl⟩ := pure_accepted.mp behind
    exact .refl cursor

/-- The root type of an operation is a node. -/
theorem operationType_consumes :
    Consumes operationType (fun value => [.node (.operation value)]) := by
  intro cursor moved value ready accepted
  simp only [operationType, bind_accepted, peek_accepted] at accepted
  obtain ⟨_, _, ⟨rfl, rfl⟩, decided⟩ := accepted
  split at decided
  · next given =>
    simp only [bind_accepted, advance_accepted, spanFrom_accepted, pure_accepted] at decided
    obtain ⟨_, _, ⟨-, rfl⟩, _, _, dividing, _, _, mentioning, _, _, ⟨rfl, rfl⟩, rfl, rfl⟩ := decided
    have named := Passes.word ready (Token.reading_of_isNameIn (List.cons_ne_nil _ _) given).1
    have divided := named.next ready (expect_consumes _ (by decide)) dividing
    have mentioned := divided.next ready namedType_consumes mentioning
    exact .node ready mentioned rfl
  · exact (reject_accepted.mp decided).elim

/-- The word that allows a directive more than once. -/
theorem repeatability_consumes :
    Consumes repeatability
      (fun repeatable => if repeatable then [Piece.name "repeatable"] else []) := by
  intro cursor moved value ready accepted
  simp only [repeatability, bind_accepted, peek_accepted] at accepted
  obtain ⟨_, _, ⟨rfl, rfl⟩, decided⟩ := accepted
  split at decided
  · next given =>
    simp only [bind_accepted, advance_accepted, pure_accepted] at decided
    obtain ⟨_, _, ⟨-, rfl⟩, rfl, rfl⟩ := decided
    exact .keyword ready given
  · obtain ⟨rfl, rfl⟩ := pure_accepted.mp decided
    exact .refl cursor

/-- The word before the locations of a directive. -/
theorem onKeyword_consumes : Consumes onKeyword (fun _ => [Piece.name "on"]) := by
  intro cursor moved value ready accepted
  simp only [onKeyword, bind_accepted, peek_accepted] at accepted
  obtain ⟨_, _, ⟨rfl, rfl⟩, decided⟩ := accepted
  split at decided
  · next given =>
    obtain ⟨-, rfl⟩ := advance_accepted.mp decided
    exact .keyword ready given
  · exact (reject_accepted.mp decided).elim

/-! ## Definitions

A definition begins at the token in front of its description. Each lemma starts there, where
the description and the keyword have been passed. -/

section Definitions

variable {start cursor moved : Cursor} {described : Option Text} (ready : start.Ready)

include ready

/-- A scalar type is a node. -/
theorem scalarType_consumes {type : ScalarType}
    (opened : Passes start cursor.advance (Piece.described described ++ [Piece.name "scalar"]))
    (accepted : scalarType start.current described cursor = .accepted type moved) :
    Passes start moved [.node (.definition (.scalar type))] := by
  simp only [scalarType, bind_accepted, advance_accepted, spanFrom_accepted,
    pure_accepted] at accepted
  obtain ⟨_, _, ⟨-, rfl⟩, _, _, naming, _, _, applying, _, _, ⟨rfl, rfl⟩, rfl, rfl⟩ := accepted
  have named := opened.next ready (expectName_consumes _) naming
  have applied := named.next ready directives_consumes applying
  refine .node ready ?_ rfl
  simpa [Piece.ofNode, Piece.ofDefinition] using applied

/-- An object or interface type is a node. -/
theorem fieldedType_consumes {role : NameRole} {keyword : Text} {wrap : FieldedType → Definition}
    (pieces : ∀ type, Piece.ofDefinition (wrap type) = Piece.ofFielded keyword type)
    (span : ∀ type, (wrap type).span = type.span) {type : FieldedType}
    (opened : Passes start cursor.advance (Piece.described described ++ [Piece.name keyword]))
    (accepted : fieldedType role start.current described cursor = .accepted type moved) :
    Passes start moved [.node (.definition (wrap type))] := by
  simp only [fieldedType, bind_accepted, advance_accepted, spanFrom_accepted,
    pure_accepted] at accepted
  obtain ⟨_, _, ⟨-, rfl⟩, _, _, naming, _, _, implementing, _, _, applying, _, _, bracing, _, _,
    ⟨rfl, rfl⟩, rfl, rfl⟩ := accepted
  have named := opened.next ready (expectName_consumes _) naming
  have implemented := named.next ready interfaces_consumes implementing
  have applied := implemented.next ready directives_consumes applying
  have braced :=
    applied.next ready (braced_consumes field_reads field_begins field_consumes) bracing
  refine .node ready ?_ (span _)
  rw [Piece.ofNode, pieces]
  simpa [Piece.ofFielded] using braced

/-- A union of types is a node. -/
theorem unionType_consumes {type : UnionType}
    (opened : Passes start cursor.advance (Piece.described described ++ [Piece.name "union"]))
    (accepted : unionType start.current described cursor = .accepted type moved) :
    Passes start moved [.node (.definition (.union type))] := by
  simp only [unionType, bind_accepted, advance_accepted, spanFrom_accepted,
    pure_accepted] at accepted
  obtain ⟨_, _, ⟨-, rfl⟩, _, _, naming, _, _, applying, _, _, joining, _, _, ⟨rfl, rfl⟩, rfl,
    rfl⟩ := accepted
  have named := opened.next ready (expectName_consumes _) naming
  have applied := named.next ready directives_consumes applying
  have joined := applied.next ready unionMembers_consumes joining
  refine .node ready ?_ rfl
  simpa [Piece.ofNode, Piece.ofDefinition] using joined

/-- An enumeration is a node. -/
theorem enumType_consumes {type : EnumType}
    (opened : Passes start cursor.advance (Piece.described described ++ [Piece.name "enum"]))
    (accepted : enumType start.current described cursor = .accepted type moved) :
    Passes start moved [.node (.definition (.enum type))] := by
  simp only [enumType, bind_accepted, advance_accepted, spanFrom_accepted,
    pure_accepted] at accepted
  obtain ⟨_, _, ⟨-, rfl⟩, _, _, naming, _, _, applying, _, _, bracing, _, _, ⟨rfl, rfl⟩, rfl,
    rfl⟩ := accepted
  have named := opened.next ready (expectName_consumes _) naming
  have applied := named.next ready directives_consumes applying
  have braced := applied.next ready
    (braced_consumes enumMember_reads enumMember_begins enumMember_consumes) bracing
  refine .node ready ?_ rfl
  simpa [Piece.ofNode, Piece.ofDefinition] using braced

/-- An input type is a node. -/
theorem inputType_consumes {type : InputType}
    (opened : Passes start cursor.advance (Piece.described described ++ [Piece.name "input"]))
    (accepted : inputType start.current described cursor = .accepted type moved) :
    Passes start moved [.node (.definition (.inputObject type))] := by
  simp only [inputType, bind_accepted, advance_accepted, spanFrom_accepted,
    pure_accepted] at accepted
  obtain ⟨_, _, ⟨-, rfl⟩, _, _, naming, _, _, applying, _, _, bracing, _, _, ⟨rfl, rfl⟩, rfl,
    rfl⟩ := accepted
  have named := opened.next ready (expectName_consumes _) naming
  have applied := named.next ready directives_consumes applying
  have braced := applied.next ready
    (braced_consumes inputValue_reads inputValue_begins inputValue_consumes) bracing
  refine .node ready ?_ rfl
  simpa [Piece.ofNode, Piece.ofDefinition] using braced

/-- The declaration of a directive is a node. -/
theorem directiveDeclaration_consumes {declaration : DirectiveDeclaration}
    (opened : Passes start cursor.advance (Piece.described described ++ [Piece.name "directive"]))
    (accepted : directiveDeclaration start.current described cursor =
      .accepted declaration moved) :
    Passes start moved [.node (.definition (.directive declaration))] := by
  simp only [directiveDeclaration, bind_accepted, advance_accepted, spanFrom_accepted,
    pure_accepted] at accepted
  obtain ⟨_, _, ⟨-, rfl⟩, _, _, signing, _, _, naming, _, _, listing, _, _, repeating, _, _,
    placing, _, _, locating, _, _, ⟨rfl, rfl⟩, rfl, rfl⟩ := accepted
  have signed := opened.next ready (expect_consumes _ (by decide)) signing
  have named := signed.next ready (expectName_consumes _) naming
  have listed := named.next ready argumentDeclarations_consumes listing
  have repeated := listed.next ready repeatability_consumes repeating
  have placed := repeated.next ready onKeyword_consumes placing
  have location : Consumes (expectName .directiveLocation)
      (fun token => [(Piece.name ∘ Token.value) token]) := expectName_consumes _
  have located := placed.next ready (separated_consumes (by decide) location) locating
  refine .node ready ?_ rfl
  simpa [Piece.ofNode, Piece.ofDefinition] using located

/-- A schema block is a node. -/
theorem schemaBlock_consumes {block : SchemaBlock}
    (opened : Passes start cursor.advance (Piece.described described ++ [Piece.name "schema"]))
    (accepted : schemaBlock start.current described cursor = .accepted block moved) :
    Passes start moved [.node (.definition (.schema block))] := by
  simp only [schemaBlock, bind_accepted, advance_accepted] at accepted
  obtain ⟨_, _, ⟨-, rfl⟩, _, _, applying, _, _, opening, _, _, listing, checked⟩ := accepted
  have applied := opened.next ready directives_consumes applying
  have braced := applied.next ready (expect_consumes _ (by decide)) opening
  have listed := braced.next ready
    (manyUntil_consumes (by decide) operationType_reads operationType_begins
      operationType_consumes) listing
  split at checked
  · exact (reject_accepted.mp checked).elim
  · simp only [bind_accepted, spanFrom_accepted, pure_accepted] at checked
    obtain ⟨_, _, ⟨rfl, rfl⟩, rfl, rfl⟩ := checked
    refine .node ready ?_ rfl
    simpa [Piece.ofNode, Piece.ofDefinition, Piece.enclosed] using listed

end Definitions

/-- The definition of a keyword is a node, whichever keyword it is. -/
theorem definitionOf_consumes {start cursor moved : Cursor} {described : Option Text}
    {definition : Definition} (ready : start.Ready)
    (front : Passes start cursor (Piece.described described))
    (accepted : definitionOf start.current described cursor = .accepted definition moved) :
    Passes start moved [.node (.definition definition)] := by
  obtain ⟨_, _, peeked, chosen⟩ := bind_accepted.mp accepted
  obtain ⟨rfl, rfl⟩ := peek_accepted.mp peeked
  by_cases named : cursor.current.kind = .name
  · rw [if_neg (fun other => other named)] at chosen
    have opened {word : Text} (value : cursor.current.value = word) :
        Passes start cursor.advance (Piece.described described ++ [Piece.name word]) :=
      front.trans (.word (front.ready ready) (Prod.ext named value))
    -- One branch for each keyword, in the order of the tests; what is left is refused.
    by_cases schemaWord : cursor.current.value = ("schema" : Text)
    · rw [if_pos schemaWord] at chosen
      obtain ⟨block, _, read, rfl, rfl⟩ := bind_accepted.mp chosen
      exact schemaBlock_consumes ready (opened schemaWord) read
    rw [if_neg schemaWord] at chosen
    by_cases scalarWord : cursor.current.value = ("scalar" : Text)
    · rw [if_pos scalarWord] at chosen
      obtain ⟨type, _, read, rfl, rfl⟩ := bind_accepted.mp chosen
      exact scalarType_consumes ready (opened scalarWord) read
    rw [if_neg scalarWord] at chosen
    by_cases typeWord : cursor.current.value = ("type" : Text)
    · rw [if_pos typeWord] at chosen
      obtain ⟨type, _, read, rfl, rfl⟩ := bind_accepted.mp chosen
      exact fieldedType_consumes ready (fun _ => rfl) (fun _ => rfl) (opened typeWord) read
    rw [if_neg typeWord] at chosen
    by_cases interfaceWord : cursor.current.value = ("interface" : Text)
    · rw [if_pos interfaceWord] at chosen
      obtain ⟨type, _, read, rfl, rfl⟩ := bind_accepted.mp chosen
      exact fieldedType_consumes ready (fun _ => rfl) (fun _ => rfl) (opened interfaceWord) read
    rw [if_neg interfaceWord] at chosen
    by_cases unionWord : cursor.current.value = ("union" : Text)
    · rw [if_pos unionWord] at chosen
      obtain ⟨type, _, read, rfl, rfl⟩ := bind_accepted.mp chosen
      exact unionType_consumes ready (opened unionWord) read
    rw [if_neg unionWord] at chosen
    by_cases enumWord : cursor.current.value = ("enum" : Text)
    · rw [if_pos enumWord] at chosen
      obtain ⟨type, _, read, rfl, rfl⟩ := bind_accepted.mp chosen
      exact enumType_consumes ready (opened enumWord) read
    rw [if_neg enumWord] at chosen
    by_cases inputWord : cursor.current.value = ("input" : Text)
    · rw [if_pos inputWord] at chosen
      obtain ⟨type, _, read, rfl, rfl⟩ := bind_accepted.mp chosen
      exact inputType_consumes ready (opened inputWord) read
    rw [if_neg inputWord] at chosen
    by_cases directiveWord : cursor.current.value = ("directive" : Text)
    · rw [if_pos directiveWord] at chosen
      obtain ⟨declaration, _, read, rfl, rfl⟩ := bind_accepted.mp chosen
      exact directiveDeclaration_consumes ready (opened directiveWord) read
    rw [if_neg directiveWord] at chosen
    split at chosen
    · cases chosen
    · split at chosen
      · exact (reject_accepted.mp chosen).elim
      · exact (reject_accepted.mp chosen).elim
  · rw [if_pos named] at chosen
    exact (reject_accepted.mp chosen).elim

/-- A definition is a node, its description included. -/
theorem definition_consumes :
    Consumes Grammar.definition (fun definition => [.node (.definition definition)]) := by
  intro cursor moved definition ready accepted
  simp only [Grammar.definition, bind_accepted, peek_accepted] at accepted
  obtain ⟨_, _, ⟨rfl, rfl⟩, _, _, describing, chosen⟩ := accepted
  exact definitionOf_consumes ready (description_consumes ready describing) chosen

/-! ## Documents -/

/-- The tokens of a document are those of its definitions. By induction on the tokens ahead. -/
theorem DocumentReading.ofCursor_fits {cursor : Cursor} (ready : cursor.Ready)
    (fine : (ofCursor cursor).errors = []) :
    Fits Located cursor.rest (Piece.nodes .definition (ofCursor cursor).definitions) := by
  induction size : cursor.rest.length using Nat.strongRecOn generalizing cursor with
  | ind size inductionHypothesis =>
    by_cases none : cursor.rest = []
    · rw [ofCursor_finished none, none]
      exact .done
    cases read : Grammar.definition cursor with
    | rejected error stopped =>
      rw [ofCursor_rejected ready.ended none read] at fine
      cases fine
    | accepted value moved =>
      have passed := definition_consumes ready read
      rw [ofCursor_accepted ready.ended read] at fine ⊢
      have others := inductionHypothesis _ (size ▸ definition_passes ready.ended read)
        (passed.ready ready) fine rfl
      obtain ⟨-, tokens, rest, -, fits⟩ := passed
      rw [rest]
      exact fits.append others

/-- What tiles a text does not begin behind its end. -/
theorem Tiles.offset_le {text : Text} {offset : Nat} {tokens : List Token}
    (tiles : Tiles text offset tokens) : offset ≤ text.length := by
  induction tiles with
  | finish _ gap starts _ _ => exact starts ▸ gap.ordered
  | token _ gap filled _ _ _ inductionHypothesis =>
    have before := gap.ordered
    omega

/-- Tokens that tile a text begin behind the offset. -/
theorem Tiles.offset_le_start {text : Text} {offset : Nat} {tokens : List Token}
    (tiles : Tiles text offset tokens) : ∀ token ∈ tokens, offset ≤ token.start := by
  induction tiles with
  | finish _ gap _ _ _ =>
    intro token member
    obtain rfl := List.mem_singleton.mp member
    exact gap.ordered
  | token _ gap filled _ _ _ inductionHypothesis =>
    intro token member
    have before := gap.ordered
    obtain rfl | member := List.mem_cons.mp member
    · exact before
    · have behind := inductionHypothesis token member
      omega

/-- Tokens that tile a text are in order and inside it, up to the end of input. -/
theorem Tiles.inOrder {text : Text} {offset : Nat} {body : List Token} {finish : Token}
    (tiles : Tiles text offset (body ++ [finish])) :
    InOrder body ∧ ∀ token ∈ body, token.stop ≤ text.length := by
  generalize whole : body ++ [finish] = tokens at tiles
  induction tiles generalizing body with
  | finish _ _ _ _ _ =>
    obtain rfl : body = [] := (List.append_eq_singleton_iff.mp whole).elim And.left (by simp)
    exact ⟨⟨by simp, .nil⟩, by simp⟩
  | @token _ first tokens _ _ filled _ _ further inductionHypothesis =>
    cases body with
    | nil =>
      obtain ⟨-, rfl⟩ := List.cons.inj whole
      cases further
    | cons token body =>
      obtain ⟨rfl, rfl⟩ := List.cons.inj whole
      obtain ⟨⟨filledMore, apart⟩, within⟩ := inductionHypothesis rfl
      have behind := further.offset_le_start
      refine ⟨⟨List.forall_mem_cons.mpr ⟨filled, filledMore⟩, .cons ?_ apart⟩,
        List.forall_mem_cons.mpr ⟨further.offset_le, within⟩⟩
      intro next member
      exact behind next (List.mem_append_left _ member)

/-- A node at its place in a text, of which the tokens are given. -/
structure SyntaxNode.WellPlaced (text : Text) (tokens : List Token) (node : SyntaxNode) : Prop where
  /-- It covers successive tokens, from the first of its pieces to the last. -/
  located : ∃ part, part <:+: tokens ∧ Located part node
  /-- It covers something. -/
  filled : node.span.start < node.span.stop
  /-- It lies inside the text. -/
  inText : node.span.stop ≤ text.length
  /-- The nodes inside it lie within it. -/
  nested : ∀ child ∈ node.children,
    node.span.start ≤ child.span.start ∧ child.span.stop ≤ node.span.stop
  /-- The nodes inside it follow one another without overlap. -/
  siblings : node.children.Pairwise (fun child next => child.span.stop ≤ next.span.start)

/-- A node that covers some tokens of a text is at its place. -/
theorem Located.wellPlaced {text : Text} {tokens part : List Token} {node : SyntaxNode}
    (ordered : InOrder tokens) (within : ∀ token ∈ tokens, token.stop ≤ text.length)
    (some : part <:+: tokens) (located : Located part node) : node.WellPlaced text tokens := by
  have inner : InOrder part := ordered.of_sublist some.sublist
  refine ⟨⟨part, some, located⟩, located.filled inner, ?_, ?_, ?_⟩
  · obtain ⟨-, -, last, there, -, -, -, stop⟩ := located.span_tokens
    exact stop ▸ within last (some.subset there)
  · intro child member
    obtain ⟨covered, inside, found⟩ := located.part member
    exact located.within inner inside found
  · obtain ⟨fits, -, -, -⟩ := located
    exact fits.siblings inner

/-- Pieces that are nodes are those nodes. -/
theorem Piece.filterMap_nodes {α : Type} (kind : α → SyntaxNode) (values : List α) :
    (nodes kind values).filterMap node? = values.map kind := by
  rw [nodes, List.filterMap_map]
  exact congrFun List.filterMap_eq_map values

/-- The definitions of a document are its tokens but comments and the end of input, and every
node covers some of them. -/
theorem parseDocument_located {text : Text} {definitions : List Definition}
    (parsed : parseDocument text = .ok definitions) :
    ∃ body finish, tokenize text = .ok (body ++ [finish]) ∧ finish.kind = .endOfInput ∧
      Fits Located (meaningful body) (Piece.nodes .definition definitions) ∧
      ∀ definition ∈ definitions, ∀ node, SyntaxNode.Inside node (.definition definition) →
        ∃ part, part <:+: meaningful body ∧ Located part node := by
  obtain ⟨body, scanned, read⟩ := parseDocument_eq_ok.mp parsed
  have fits : Fits Located (meaningful body) (Piece.nodes .definition definitions) := by
    have ordered : InOrder (meaningful body) :=
      (tiles_of_tokenize scanned).inOrder.1.of_sublist List.filter_sublist
    have ready : (Cursor.ofTokens body (Token.finish (Position.origin.through text))).Ready :=
      ⟨rfl, ordered⟩
    have covered := DocumentReading.ofCursor_fits ready (congrArg DocumentReading.errors read)
    rwa [read] at covered
  refine ⟨body, _, scanned, rfl, fits, ?_⟩
  intro definition member node inside
  obtain ⟨part, covered, located⟩ :=
    fits.part (Piece.filterMap_nodes .definition _ ▸ List.mem_map_of_mem member)
  obtain ⟨inner, closer, found⟩ := located.part_inside inside
  exact ⟨inner, closer.trans covered, found⟩

/-- The nodes of a document have exact spans: each covers the tokens it was read from, not
empty and inside the text, within the node around it and apart from the nodes beside it. The
definitions cover all tokens but comments and the end of input, one behind the other. -/
theorem parseDocument_spans {text : Text} {definitions : List Definition}
    (parsed : parseDocument text = .ok definitions) :
    ∃ body finish, tokenize text = .ok (body ++ [finish]) ∧ finish.kind = .endOfInput ∧
      Fits Located (meaningful body) (Piece.nodes .definition definitions) ∧
      (∀ definition ∈ definitions, ∀ node, SyntaxNode.Inside node (.definition definition) →
        node.WellPlaced text (meaningful body)) ∧
      definitions.Pairwise (fun definition next => definition.span.stop ≤ next.span.start) := by
  obtain ⟨body, finish, scanned, ended, fits, located⟩ := parseDocument_located parsed
  obtain ⟨allOrdered, allWithin⟩ := (tiles_of_tokenize scanned).inOrder
  have some : (meaningful body).Sublist body := List.filter_sublist
  have ordered := allOrdered.of_sublist some
  have within : ∀ token ∈ meaningful body, token.stop ≤ text.length :=
    fun token member => allWithin token (some.subset member)
  refine ⟨body, finish, scanned, ended, fits, ?_, ?_⟩
  · intro definition member node inside
    obtain ⟨part, covered, found⟩ := located definition member node inside
    exact found.wellPlaced ordered within covered
  · have apart := fits.siblings ordered
    rwa [Piece.filterMap_nodes, List.pairwise_map] at apart

/-- A described type on three lines, with a comment inside. -/
def describedText : Text := "\"D\" type A \x7b\n  b: [C!] # c\n\x7d"

/-- The field of the described type. -/
def describedField : Field :=
  ⟨"b", [], .list (.nonNull (.named ⟨"C", ⟨19, 20, 2, 7⟩⟩) ⟨19, 21, 2, 7⟩) ⟨18, 22, 2, 6⟩, [], none,
    ⟨15, 22, 2, 3⟩⟩

/-- The described type begins at its description, and its field ends before the comment. -/
theorem parseDocument_spans_described :
    parseDocument describedText =
        .ok [.object ⟨"A", [], [describedField], [], some "D", ⟨0, 28, 1, 1⟩⟩] ∧
      ∃ tokens, (SyntaxNode.field describedField).WellPlaced describedText tokens := by
  have scanned : tokenize describedText = .ok
      [⟨.string, "D", 1, 1, 0, 3⟩, ⟨.name, "type", 1, 5, 4, 8⟩, ⟨.name, "A", 1, 10, 9, 10⟩,
        ⟨.leftBrace, "\x7b", 1, 12, 11, 12⟩, ⟨.name, "b", 2, 3, 15, 16⟩,
        ⟨.colon, ":", 2, 4, 16, 17⟩, ⟨.leftBracket, "[", 2, 6, 18, 19⟩,
        ⟨.name, "C", 2, 7, 19, 20⟩, ⟨.bang, "!", 2, 8, 20, 21⟩,
        ⟨.rightBracket, "]", 2, 9, 21, 22⟩, ⟨.comment, " c", 2, 11, 23, 26⟩,
        ⟨.rightBrace, "\x7d", 3, 1, 27, 28⟩, ⟨.endOfInput, "", 3, 2, 28, 28⟩] := by cbv
  have parsed : parseDocument describedText =
      .ok [.object ⟨"A", [], [describedField], [], some "D", ⟨0, 28, 1, 1⟩⟩] := by
    rw [parseDocument, scanned]
    with_unfolding_all rfl
  obtain ⟨body, _, -, -, -, placed, -⟩ := parseDocument_spans parsed
  exact ⟨parsed, _, placed _ List.mem_cons_self _ (.child .itself List.mem_cons_self)⟩

end SchemaForge

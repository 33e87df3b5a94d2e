import SchemaForge.Proofs.SchemaPhrases

/-!
# Nodes and the tokens they cover

A node of a syntax tree that has a span is made of tokens of its own and of the nodes inside
it. `Piece.ofNode` lists these pieces in source order, for each kind of node, and `Located`
says that tokens are the pieces of a node and that its span is exact: it starts at the first
token, stops behind the last one, and has the line and the column of the first.

The pieces leave nothing open but what the language leaves open: a string has one of two forms,
a separator may stand in front of a list, and an empty body may have braces or none.

Tokens that are in order make spans that are nested. A node inside another one covers some of
its tokens, and two nodes side by side share none.
-/

namespace SchemaForge

/-! ## Pieces of a node -/

/-- A node of a syntax tree that has a span. -/
inductive SyntaxNode where
  | definition (definition : Definition)
  | field (field : Field)
  | inputValue (value : InputValue)
  | enumMember (member : EnumMember)
  | operation (operation : OperationType)
  | directive (directive : Directive)
  | argument (argument : Argument)
  | objectField (field : ObjectField)
  | type (type : TypeReference)
  | value (value : Value)

/-- The span of a node. -/
def SyntaxNode.span : SyntaxNode → Span
  | definition given => given.span
  | field given => given.span
  | inputValue given => given.span
  | enumMember given => given.span
  | operation given => given.span
  | directive given => given.span
  | argument given => given.span
  | objectField given => given.span
  | type given => given.span
  | value given => given.span

/-- A piece of a node. -/
inductive Piece where
  /-- One token that reads so. -/
  | word (reading : Reading)
  /-- One token of a kind. -/
  | mark (kind : TokenKind)
  /-- A string of either form with a value. -/
  | quoted (text : Text)
  /-- Tokens of these kinds, or none of them. -/
  | optional (kinds : List TokenKind)
  /-- A node inside the node. -/
  | node (node : SyntaxNode)

namespace Piece

variable {α : Type}

/-- A name. -/
def name (text : Text) : Piece := .word (.name, text)

/-- The description, if there is one. -/
def described : Option Text → List Piece
  | none => []
  | some text => [.quoted text]

/-- Nodes of one kind. -/
def nodes (kind : α → SyntaxNode) (values : List α) : List Piece :=
  values.map (fun value => .node (kind value))

/-- Directives, which stand one behind the other. -/
def directives (applied : List Directive) : List Piece := nodes .directive applied

/-- Mentions of types. -/
def mentions (types : List NamedType) : List Piece := nodes (fun type => .type (.named type)) types

/-- Pieces between brackets. -/
def enclosed (opener closer : TokenKind) (inner : List Piece) : List Piece :=
  .mark opener :: (inner ++ [.mark closer])

/-- Pieces between parentheses, which are missing around nothing. -/
def parenthesized : List Piece → List Piece
  | [] => []
  | inner => enclosed .leftParen .rightParen inner

/-- Pieces between braces, which may be missing around nothing. -/
def braced : List Piece → List Piece
  | [] => [.optional [.leftBrace, .rightBrace]]
  | inner => enclosed .leftBrace .rightBrace inner

/-- Pieces between separators, possibly with one in front. -/
def separated (separator : TokenKind) : List Piece → List Piece
  | [] => []
  | first :: others =>
    .optional [separator] :: first :: others.flatMap (fun other => [.mark separator, other])

/-- Pieces behind one that is missing in front of nothing. -/
def introduced (lead : Piece) : List Piece → List Piece
  | [] => []
  | pieces => lead :: pieces

/-- A token that a piece stands for by itself. -/
def Admits : Piece → Token → Prop
  | word reading, token => token.reading = reading
  | mark kind, token => token.kind = kind
  | quoted text, token => token.isString = true ∧ token.value = text
  | optional _, _ => False
  | node _, _ => False

/-- The node that a piece is. -/
def node? : Piece → Option SyntaxNode
  | node given => some given
  | _ => none

/-- A piece that stands for one token is no node. -/
theorem node?_of_admits {piece : Piece} {token : Token} (admits : piece.Admits token) :
    piece.node? = none := by
  cases piece with
  | node given => exact admits.elim
  | _ => rfl

/-- The pieces of an object or interface type with its keyword. -/
def ofFielded (keyword : Text) (type : FieldedType) : List Piece :=
  described type.description ++ [name keyword, name type.name] ++
    introduced (name "implements") (separated .amp (mentions type.interfaces)) ++
    directives type.directives ++ braced (nodes .field type.fields)

/-- The pieces of a definition. -/
def ofDefinition : Definition → List Piece
  | .object type => ofFielded "type" type
  | .interface type => ofFielded "interface" type
  | .union type =>
    described type.description ++ [name "union", name type.name] ++ directives type.directives ++
      introduced (.mark .equals) (separated .pipe (mentions type.members))
  | .scalar type =>
    described type.description ++ [name "scalar", name type.name] ++ directives type.directives
  | .enum type =>
    described type.description ++ [name "enum", name type.name] ++ directives type.directives ++
      braced (nodes .enumMember type.values)
  | .inputObject type =>
    described type.description ++ [name "input", name type.name] ++ directives type.directives ++
      braced (nodes .inputValue type.fields)
  | .directive declaration =>
    described declaration.description ++
      [name "directive", .mark .at, name declaration.name] ++
      parenthesized (nodes .inputValue declaration.arguments) ++
      (if declaration.repeatable then [name "repeatable"] else []) ++ [name "on"] ++
      separated .pipe (declaration.locations.map name)
  | .schema block =>
    described block.description ++ [name "schema"] ++ directives block.directives ++
      enclosed .leftBrace .rightBrace (nodes .operation block.operations)

/-- The pieces of a constant. -/
def ofValue : Value → List Piece
  | .string text _ block => [.word (if block then .blockString else .string, text)]
  | .int digits _ => [.word (.int, digits)]
  | .float digits _ => [.word (.float, digits)]
  | .boolean yes _ => [name (if yes then "true" else "false")]
  | .null _ => [name "null"]
  | .enum symbol _ => [name symbol]
  | .list values _ => enclosed .leftBracket .rightBracket (nodes .value values)
  | .object fields _ => enclosed .leftBrace .rightBrace (nodes .objectField fields)

/-- The pieces of a type reference. A type without null has the nullable type inside. -/
def ofType : TypeReference → List Piece
  | .named type => [name type.name]
  | .list element _ => enclosed .leftBracket .rightBracket [.node (.type element)]
  | .nonNull inner _ => [.node (.type inner), .mark .bang]

/-- The pieces of a node in source order. -/
def ofNode : SyntaxNode → List Piece
  | .definition given => ofDefinition given
  | .field given =>
    described given.description ++ [name given.name] ++
      parenthesized (nodes .inputValue given.arguments) ++
      [.mark .colon, .node (.type given.type)] ++ directives given.directives
  | .inputValue given =>
    described given.description ++ [name given.name, .mark .colon, .node (.type given.type)] ++
      introduced (.mark .equals) (nodes .value given.defaultValue.toList) ++
      directives given.directives
  | .enumMember given =>
    described given.description ++ [name given.name] ++ directives given.directives
  | .operation given => [name given.operation, .mark .colon, .node (.type (.named given.type))]
  | .directive given =>
    [.mark .at, name given.name] ++ parenthesized (nodes .argument given.arguments)
  | .argument given => [name given.name, .mark .colon, .node (.value given.value)]
  | .objectField given => [name given.name, .mark .colon, .node (.value given.value)]
  | .type given => ofType given
  | .value given => ofValue given

end Piece

namespace SyntaxNode

/-- The nodes directly inside a node, in source order. -/
def children (node : SyntaxNode) : List SyntaxNode := (Piece.ofNode node).filterMap Piece.node?

/-- A node that is another one or stands somewhere inside it. -/
inductive Inside : SyntaxNode → SyntaxNode → Prop where
  | itself {node : SyntaxNode} : Inside node node
  | child {child node root : SyntaxNode} (inside : Inside node root)
      (member : child ∈ node.children) : Inside child root

end SyntaxNode

/-! ## Tokens of a node -/

/-- Tokens that are the given pieces, one behind the other. -/
inductive Fits (located : List Token → SyntaxNode → Prop) : List Token → List Piece → Prop where
  | done : Fits located [] []
  | token {token : Token} {tokens : List Token} {piece : Piece} {pieces : List Piece}
      (admits : piece.Admits token) (further : Fits located tokens pieces) :
      Fits located (token :: tokens) (piece :: pieces)
  | absent {kinds : List TokenKind} {tokens : List Token} {pieces : List Piece}
      (further : Fits located tokens pieces) : Fits located tokens (.optional kinds :: pieces)
  | present {marks tokens : List Token} {pieces : List Piece}
      (further : Fits located tokens pieces) :
      Fits located (marks ++ tokens) (.optional (marks.map Token.kind) :: pieces)
  | node {part tokens : List Token} {node : SyntaxNode} {pieces : List Piece}
      (here : located part node) (further : Fits located tokens pieces) :
      Fits located (part ++ tokens) (.node node :: pieces)

/-- The tokens of a node: its pieces, of which the span covers the first to the last. -/
inductive Located : List Token → SyntaxNode → Prop where
  | intro {tokens : List Token} {node : SyntaxNode} {first last : Token}
      (fits : Fits Located tokens (Piece.ofNode node)) (begins : tokens.head? = some first)
      (ends : tokens.getLast? = some last)
      (span : node.span = ⟨first.start, last.stop, first.line, first.column⟩) :
      Located tokens node

namespace Fits

variable {located : List Token → SyntaxNode → Prop} {tokens others : List Token}
  {pieces further : List Piece}

/-- Tokens behind tokens are pieces behind pieces. -/
theorem append (front : Fits located tokens pieces) (behind : Fits located others further) :
    Fits located (tokens ++ others) (pieces ++ further) := by
  induction front with
  | done => exact behind
  | token admits _ inductionHypothesis => exact .token admits inductionHypothesis
  | absent _ inductionHypothesis => exact .absent inductionHypothesis
  | present _ inductionHypothesis =>
    rw [List.append_assoc]
    exact .present inductionHypothesis
  | node here _ inductionHypothesis =>
    rw [List.append_assoc]
    exact .node here inductionHypothesis

/-- A node among the pieces covers some of the tokens. -/
theorem part {node : SyntaxNode} (fits : Fits located tokens pieces)
    (member : node ∈ pieces.filterMap Piece.node?) :
    ∃ part, part <:+: tokens ∧ located part node := by
  induction fits with
  | done => cases member
  | @token first _ piece pieces admits _ inductionHypothesis =>
    rw [List.filterMap_cons_none (Piece.node?_of_admits admits)] at member
    obtain ⟨part, inside, found⟩ := inductionHypothesis member
    exact ⟨part, inside.trans (List.suffix_cons first _).isInfix, found⟩
  | absent _ inductionHypothesis => exact inductionHypothesis member
  | @present marks _ _ _ inductionHypothesis =>
    obtain ⟨part, inside, found⟩ := inductionHypothesis member
    exact ⟨part, inside.trans (List.suffix_append marks _).isInfix, found⟩
  | @node part tokens given _ here _ inductionHypothesis =>
    obtain rfl | member := List.mem_cons.mp member
    · exact ⟨part, (List.prefix_append part tokens).isInfix, here⟩
    · obtain ⟨other, inside, found⟩ := inductionHypothesis member
      exact ⟨other, inside.trans (List.suffix_append part tokens).isInfix, found⟩

end Fits

/-! ## Spans of tokens in order -/

/-- Tokens that are not empty and follow one another without overlap. -/
structure InOrder (tokens : List Token) : Prop where
  /-- Each token covers something. -/
  filled : ∀ token ∈ tokens, token.start < token.stop
  /-- Each token ends before the next one begins. -/
  apart : tokens.Pairwise (fun token next => token.stop ≤ next.start)

namespace InOrder

variable {tokens part : List Token} {token first last : Token}

/-- Some of the tokens are in order too. -/
theorem of_sublist (ordered : InOrder tokens) (some : part.Sublist tokens) : InOrder part :=
  ⟨fun token member => ordered.filled token (some.subset member), ordered.apart.sublist some⟩

/-- No token begins before the first one. -/
theorem first_le (ordered : InOrder tokens) (begins : tokens.head? = some first)
    (member : token ∈ tokens) : first.start ≤ token.start := by
  cases tokens with
  | nil => cases member
  | cons head tokens =>
    obtain rfl := Option.some.inj begins
    obtain rfl | member := List.mem_cons.mp member
    · exact Nat.le_refl _
    · have filled := ordered.filled head List.mem_cons_self
      have apart := List.rel_of_pairwise_cons ordered.apart member
      omega

/-- No token ends behind the last one. -/
theorem le_last (ordered : InOrder tokens) (ends : tokens.getLast? = some last)
    (member : token ∈ tokens) : token.stop ≤ last.stop := by
  obtain ⟨front, rfl⟩ := List.getLast?_eq_some_iff.mp ends
  obtain member | member := List.mem_append.mp member
  · have filled := ordered.filled last (List.mem_append_right front (List.mem_singleton_self last))
    have apart := (List.pairwise_append.mp ordered.apart).2.2 token member last
      (List.mem_singleton_self last)
    omega
  · obtain rfl := List.mem_singleton.mp member
    exact Nat.le_refl _

end InOrder

namespace Located

variable {tokens covered : List Token} {node child : SyntaxNode}

/-- A node inside another one covers some of its tokens. -/
theorem part (located : Located tokens node) (member : child ∈ node.children) :
    ∃ part, part <:+: tokens ∧ Located part child := by
  obtain ⟨fits, -, -, -⟩ := located
  exact fits.part member

/-- A node somewhere inside another one covers some of its tokens. -/
theorem part_inside {root : SyntaxNode} (located : Located tokens root)
    (inside : SyntaxNode.Inside node root) : ∃ part, part <:+: tokens ∧ Located part node := by
  induction inside with
  | itself => exact ⟨tokens, List.infix_rfl, located⟩
  | child _ member inductionHypothesis =>
    obtain ⟨outer, within, here⟩ := inductionHypothesis located
    obtain ⟨inner, inside, found⟩ := here.part member
    exact ⟨inner, inside.trans within, found⟩

/-- The span of a node begins and ends with tokens of it. -/
theorem span_tokens (located : Located tokens node) :
    ∃ first ∈ tokens, ∃ last ∈ tokens, tokens.head? = some first ∧ tokens.getLast? = some last ∧
      node.span.start = first.start ∧ node.span.stop = last.stop := by
  obtain @⟨_, _, first, last, -, begins, ends, span⟩ := located
  refine ⟨first, List.mem_of_mem_head? begins, last, List.mem_of_getLast? ends, begins, ends, ?_⟩
  rw [span]
  exact ⟨rfl, rfl⟩

/-- A node covers something. -/
theorem filled (ordered : InOrder tokens) (located : Located tokens node) :
    node.span.start < node.span.stop := by
  obtain ⟨first, here, last, -, begins, ends, start, stop⟩ := located.span_tokens
  have filled := ordered.filled first here
  have within := ordered.le_last ends here
  omega

/-- A node that covers some of the tokens of another one lies within it. -/
theorem within (ordered : InOrder tokens) (located : Located tokens node)
    (some : covered <:+: tokens) (inner : Located covered child) :
    node.span.start ≤ child.span.start ∧ child.span.stop ≤ node.span.stop := by
  obtain ⟨first, -, last, -, begins, ends, start, stop⟩ := located.span_tokens
  obtain ⟨innerFirst, here, innerLast, there, -, -, innerStart, innerStop⟩ := inner.span_tokens
  have after := ordered.first_le begins (some.subset here)
  have before := ordered.le_last ends (some.subset there)
  omega

end Located

/-- Nodes among the pieces follow one another without overlap. -/
theorem Fits.siblings {tokens : List Token} {pieces : List Piece}
    (fits : Fits Located tokens pieces) (ordered : InOrder tokens) :
    (pieces.filterMap Piece.node?).Pairwise
      (fun node next => node.span.stop ≤ next.span.start) := by
  induction fits with
  | done => exact .nil
  | @token first tokens piece pieces admits _ inductionHypothesis =>
    rw [List.filterMap_cons_none (Piece.node?_of_admits admits)]
    exact inductionHypothesis (ordered.of_sublist (List.sublist_cons_self first tokens))
  | absent _ inductionHypothesis => exact inductionHypothesis ordered
  | @present marks tokens _ _ inductionHypothesis =>
    exact inductionHypothesis (ordered.of_sublist (List.sublist_append_right marks tokens))
  | @node part tokens given pieces here further inductionHypothesis =>
    refine .cons ?_ (inductionHypothesis (ordered.of_sublist (List.sublist_append_right _ tokens)))
    intro next member
    obtain ⟨other, inside, found⟩ := further.part member
    obtain ⟨-, -, last, ends, -, -, -, stop⟩ := here.span_tokens
    obtain ⟨first, begins, -, -, -, -, start, -⟩ := found.span_tokens
    have apart := (List.pairwise_append.mp ordered.apart).2.2 last ends first (inside.subset begins)
    omega

end SchemaForge

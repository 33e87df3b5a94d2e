import SchemaForge.Yaml.Token

/-!
# Documents as graphs

A document is a graph of scalars, sequences and mappings. An anchor names a node
and an alias stands for the node itself, so that a collection can hold itself.
Nodes are known by their numbers, and a collection has its number before the nodes
inside it have theirs.

A tag is a full name, or a name behind a handle that stands for the beginning of
the full name. Handles are declared before the document; two of them need no
declaration. The recursion of the reader is bounded by the number of code points.
-/

namespace SchemaForge.Yaml

/-- What a node holds: its text, or the numbers of other nodes. -/
inductive Content where
  | scalar (text : Text)
  | sequence (items : List Nat)
  | mapping (pairs : List (Nat × Nat))
deriving DecidableEq, Inhabited

/-- What a node is called by its content. -/
def Content.label : Content → Text
  | scalar _ => "scalar"
  | sequence _ => "sequence"
  | mapping _ => "mapping"

/-- A node of a document. -/
structure Node where
  /-- Its tag. -/
  tag : Tag
  /-- What it holds. -/
  content : Content
  /-- Where it starts. -/
  start : Place
deriving DecidableEq, Inhabited

/-- The nodes of a document by their numbers. -/
abbrev Graph := Array Node

namespace Graph

/-- The node that is left out at a place. -/
def leftOut (place : Place) : Node := ⟨Tag.ofPlain [], .scalar [], place⟩

/-- The node of a number. -/
def node (graph : Graph) (number : Nat) : Node := graph.getD number (leftOut {})

/-- The tag of a node. -/
def tag (graph : Graph) (number : Nat) : Tag := (graph.node number).tag

/-- Where a node starts. -/
def start (graph : Graph) (number : Nat) : Place := (graph.node number).start

/-- The pairs of a node. A node that is no mapping has none. -/
def pairs (graph : Graph) (number : Nat) : List (Nat × Nat) :=
  match (graph.node number).content with
  | .mapping pairs => pairs
  | _ => []

/-- The graph with other content in a node. -/
def withContent (graph : Graph) (number : Nat) (content : Content) : Graph :=
  graph.modify number (fun node => { node with content := content })

/-- The graph with another tag on a node. -/
def withTag (graph : Graph) (number : Nat) (tag : Tag) : Graph :=
  graph.modify number (fun node => { node with tag := tag })

/-- How many pairs all mappings have together. -/
def pairCount (graph : Graph) : Nat :=
  (List.range graph.size).foldl (fun count number => count + (graph.pairs number).length) 0

end Graph

/-- The state of a reading. -/
structure Reading where
  /-- The scan of the tokens. -/
  scanner : Scanner
  /-- The nodes so far. -/
  graph : Graph := #[]
  /-- The anchors so far. -/
  anchors : List (Text × Nat) := []
  /-- The declared handles, with what they stand for. -/
  handles : List (Text × Text) := []

/-- A step of a reading; it fails where the tokens are no document. -/
abbrev Read (α : Type) := StateT Reading (Except Fault) α

namespace Read

/-- The bound of a loop is used up. The bounds are chosen so that no text brings it about. -/
def exhausted {α : Type} : Read α := throw (.malformed default)

/-- The tokens are no document, for a problem at a place. -/
def refuse {α : Type} (activity : Option Activity) (problem : Text) (place : Place) : Read α :=
  throw (.malformed (.problem activity problem place))

/-- A step of the scan. -/
def scan {α : Type} (step : Scan α) : Read α := do
  let reading ← get
  let (value, scanner) ← (StateT.run step reading.scanner : Except Fault (α × Scanner))
  set { reading with scanner := scanner }
  pure value

/-- The next token. -/
def peek : Read Token := return (← scan Scan.nextToken).1

/-- Where the next token starts. -/
def here : Read Place := return (← scan Scan.nextToken).2

/-- The tokens are no document, for another one was expected next. -/
def refuseNext {α : Type} (activity : Option Activity) (expected : Text) : Read α := do
  let (token, place) ← scan Scan.nextToken
  refuse activity (Text.concat ["expected ", expected, " ", Text.quoted token.label]) place

/-- Passes the next token, and gives the place behind it if it is one sign. -/
def pass : Read Place := do
  let place ← here
  scan Scan.takeToken
  pure place.next

/-- Passes the next token, which must be the given one. -/
def expect (token : Token) (activity : Option Activity) (expected : Text) : Read Unit := do
  if (← peek) = token then
    let _ ← pass
  else refuseNext activity expected

/-! ## Nodes -/

/-- A new node, with its number. -/
def newNode (node : Node) : Read Nat := do
  let number := (← get).graph.size
  modify (fun reading => { reading with graph := reading.graph.push node })
  pure number

/-- A new node where one is left out. -/
def empty (place : Place) : Read Nat := newNode (Graph.leftOut place)

/-- Gives a node its content. -/
def fillNode (number : Nat) (content : Content) : Read Unit :=
  modify (fun reading => { reading with graph := reading.graph.withContent number content })

/-- Names a node by an anchor, if there is one. -/
def nameNode (anchor : Option Text) (number : Nat) : Read Unit :=
  modify (fun reading =>
    { reading with
      anchors := reading.anchors ++ anchor.toList.map (fun name => (name, number)) })

/-- What an anchor names, if anything has its name. -/
def anchored? (name : Text) : Read (Option Nat) := do
  let held := (← get).anchors.find? (fun held => decide (held.1 = name))
  pure (held.map Prod.snd)

/-! ## Tags -/

/-- The handles that need no declaration. -/
def commonHandles : List (Text × Text) := [("!", "!"), ("!!", Tag.space)]

/-- The tag of a node as it is written, and where. -/
structure WrittenTag where
  /-- The handle, if there is one. -/
  handle : Option Text
  /-- The name behind it. -/
  name : Text
  /-- Where the tag starts. -/
  place : Place

/-- The full name of a tag of a node that starts at a place. -/
def fullName (start : Place) (tag : WrittenTag) : Read Text := do
  match tag.handle with
  | none => pure tag.name
  | some handle =>
    let known := (← get).handles ++ commonHandles
    match known.find? (fun held => decide (held.1 = handle)) with
    | some (_, lead) => pure (lead ++ tag.name)
    | none =>
      refuse (some ⟨"while parsing a node", start⟩)
        ("found undefined tag handle " ++ Text.quoted handle) tag.place

/-- The tag of a node: the one that is given, or else the one of its kind. A lone
exclamation mark gives none. -/
def tagOr (kind : Tag) (given : Option Text) : Tag :=
  match given with
  | none => kind
  | some name => if name = ("!" : Text) then kind else Tag.ofName name

/-- The tag of a scalar. Without one of its own it is found by the form of the scalar,
unless that is quoted. -/
def scalarTag (text : Text) (plain : Bool) (given : Option Text) : Tag :=
  if plain || given.isSome then tagOr (Tag.ofPlain text) given else .text

/-- What stands in front of a node. -/
structure Properties where
  /-- The anchor. -/
  anchor : Option Text
  /-- The full name of the tag. -/
  tag : Option Text
  /-- Where the node starts. -/
  start : Place

/-- The anchor that stands next, if one does. -/
def anchorHere : Read (Option Text) := do
  match ← peek with
  | .anchor name =>
    let _ ← pass
    pure (some name)
  | _ => pure none

/-- The tag that stands next, if one does. -/
def tagHere : Read (Option WrittenTag) := do
  let place ← here
  match ← peek with
  | .tag handle name =>
    let _ ← pass
    pure (some ⟨handle, name, place⟩)
  | _ => pure none

/-- The anchor and the tag in front of a node, in either order. -/
def properties : Read Properties := do
  let start ← here
  let first ← anchorHere
  let tag ← tagHere
  let anchor ← if first.isNone && tag.isSome then anchorHere else pure first
  match tag with
  | none => pure ⟨anchor, none, start⟩
  | some tag => pure ⟨anchor, some (← fullName start tag), start⟩

/-! ## Collections -/

/-- Items for as long as an item starts. -/
def items {α : Type} (starts : Token → Bool) (item : Read α) : Nat → Read (List α)
  | 0 => exhausted
  | bound + 1 => do
    if starts (← peek) then
      let first ← item
      let others ← items starts item bound
      pure (first :: others)
    else pure []

/-- The node of an item, or an empty one behind the last token where the next one ends the
item. -/
def unlessEnds (ends : List Token) (behind : Place) (node : Read Nat) : Read Nat := do
  if ends.contains (← peek) then empty behind else node

/-- The value behind a colon, or an empty one. -/
def valueAfterColon (ends : List Token) (node : Read Nat) : Read Nat := do
  if (← peek) = .value then
    let behind ← pass
    unlessEnds ends behind node
  else empty (← here)

/-- A kind of flow collection. -/
structure FlowKind where
  /-- What it is called. -/
  label : Text
  /-- The token that ends it. -/
  closer : Token
  /-- What may stand behind an item. -/
  separators : Text

/-- Items between brackets. -/
def FlowKind.sequence : FlowKind := ⟨"flow sequence", .flowSequenceEnd, "',' or ']', but got"⟩

/-- Pairs between braces. -/
def FlowKind.mapping : FlowKind :=
  ⟨"flow mapping", .flowMappingEnd, "',' or '\x7d', but got"⟩

/-- Items of a flow collection that starts at a place, with signs between them, up to its
end. -/
def flowItems {α : Type} (kind : FlowKind) (start : Place) (item : Read α) (first : Bool) :
    Nat → Read (List α)
  | 0 => exhausted
  | bound + 1 => do
    let finish : Read (List α) := do
      let _ ← pass
      pure []
    if (← peek) = kind.closer then finish
    else
      if !first then
        expect .flowEntry (some ⟨"while parsing a " ++ kind.label, start⟩) kind.separators
      if (← peek) = kind.closer then finish
      else
        let value ← item
        let others ← flowItems kind start item false bound
        pure (value :: others)

/-- A key and its value in a flow collection. -/
def flowPair (closer : Token) (node : Read Nat) : Read (Nat × Nat) := do
  if (← peek) = .key then
    let behind ← pass
    let key ← unlessEnds [.value, .flowEntry, closer] behind node
    let value ← valueAfterColon [.flowEntry, closer] node
    pure (key, value)
  else
    let key ← node
    let value ← empty (← here)
    pure (key, value)

/-- An item of a flow sequence. A key with a value is a mapping of its own. -/
def flowItem (node : Read Nat) : Read Nat := do
  if (← peek) = .key then
    let number ← newNode ⟨.mapping, .mapping [], ← here⟩
    let pair ← flowPair .flowSequenceEnd node
    fillNode number (.mapping [pair])
    pure number
  else node

/-- A key and its value in a block, from the mark of the key on. -/
def blockPair (node : Read Nat) : Read (Nat × Nat) := do
  let behind ← pass
  let key ← unlessEnds [.key, .value, .blockEnd] behind node
  let value ← valueAfterColon [.key, .value, .blockEnd] node
  pure (key, value)

/-- The items behind dashes. -/
def dashItems (ends : List Token) (node : Read Nat) (bound : Nat) : Read (List Nat) :=
  items (fun token => decide (token = .blockEntry)) (do
    let behind ← pass
    unlessEnds ends behind node) bound

/-- The end of a block that starts at a place. -/
def leaveBlock (label : Text) (start : Place) : Read Unit :=
  expect .blockEnd (some ⟨"while parsing a " ++ label, start⟩) "<block end>, but found"

/-- A collection: its node comes first, so that what is inside can name it. -/
def collection (properties : Properties) (kind : Tag) (empty : Content)
    (content : Read Content) : Read Nat := do
  let number ← newNode ⟨tagOr kind properties.tag, empty, properties.start⟩
  nameNode properties.anchor number
  fillNode number (← content)
  pure number

/-- A sequence. -/
def sequence (properties : Properties) (items : Read (List Nat)) : Read Nat :=
  collection properties .sequence (.sequence []) (do
    pure (.sequence (← items)))

/-- A mapping. -/
def mapping (properties : Properties) (pairs : Read (List (Nat × Nat))) : Read Nat :=
  collection properties .mapping (.mapping []) (do
    pure (.mapping (← pairs)))

/-- A scalar. -/
def scalar (properties : Properties) (text : Text) (plain : Bool) : Read Nat := do
  let number ← newNode ⟨scalarTag text plain properties.tag, .scalar text, properties.start⟩
  nameNode properties.anchor number
  pure number

/-- A node without content. Its properties make it an empty scalar; there must be some. -/
def bareNode (block : Bool) (properties : Properties) : Read Nat :=
  if properties.anchor.isSome || properties.tag.isSome then scalar properties [] true
  else
    let kind : Text := if block then "block" else "flow"
    refuseNext (some ⟨Text.concat ["while parsing a ", kind, " node"], properties.start⟩)
      "the node content, but found"

/-- The node behind its properties. Block collections are allowed only where `block`
says so, and dashes without indentation only where `dashes` does. -/
def contentNode (block dashes : Bool) (properties : Properties)
    (inner : (block dashes : Bool) → Read Nat) (bound : Nat) : Read Nat := do
  let start ← here
  match ← peek with
  | .scalar text plain =>
    let _ ← pass
    scalar properties text plain
  | .flowSequenceStart =>
    let _ ← pass
    sequence properties (flowItems .sequence start (flowItem (inner false false)) true bound)
  | .flowMappingStart =>
    let _ ← pass
    mapping properties
      (flowItems .mapping start (flowPair .flowMappingEnd (inner false false)) true bound)
  | .blockEntry =>
    if dashes then
      sequence properties
        (dashItems [.blockEntry, .key, .value, .blockEnd] (inner true false) bound)
    else bareNode block properties
  | .blockSequenceStart =>
    if block then
      let _ ← pass
      sequence properties (do
        let entries ← dashItems [.blockEntry, .blockEnd] (inner true false) bound
        leaveBlock "block collection" start
        pure entries)
    else bareNode block properties
  | .blockMappingStart =>
    if block then
      let _ ← pass
      mapping properties (do
        let pairs ← items (fun token => decide (token = .key)) (blockPair (inner true true)) bound
        leaveBlock "block mapping" start
        pure pairs)
    else bareNode block properties
  | _ => bareNode block properties

/-- Refuses an anchor that a node before this one has. -/
def checkAnchor (properties : Properties) : Read Unit := do
  match properties.anchor with
  | none => pure ()
  | some name =>
    let _ ← peek
    match ← anchored? name with
    | none => pure ()
    | some number =>
      let first := (← get).graph.start number
      let label :=
        Text.concat ["found duplicate anchor ", Text.quoted name, "; first occurrence"]
      refuse (some ⟨label, first⟩) "second occurrence" properties.start

/-- A node, or the one that an alias stands for. No two nodes may have one anchor. -/
def node (block dashes : Bool) : Nat → Read Nat
  | 0 => exhausted
  | bound + 1 => do
    let start ← here
    match ← peek with
    | .alias name =>
      let _ ← pass
      match ← anchored? name with
      | some number => pure number
      | none => refuse none ("found undefined alias " ++ Text.quoted name) start
    | _ =>
      let properties ← properties
      checkAnchor properties
      contentNode block dashes properties (fun block dashes => node block dashes bound) bound

/-! ## Documents -/

/-- Takes the declarations before a document. There may be one version, and one
declaration of each handle. -/
def directives (versioned : Bool) : Nat → Read Unit
  | 0 => exhausted
  | bound + 1 => do
    let start ← here
    match ← peek with
    | .directive (.version major) =>
      let _ ← pass
      if versioned then refuse none "found duplicate YAML directive" start
      else if major ≠ 1 then
        refuse none "found incompatible YAML document (version 1.* is required)" start
      else directives true bound
    | .directive (.handle name lead) =>
      let _ ← pass
      if (← get).handles.any (fun held => decide (held.1 = name)) then
        refuse none ("duplicate tag handle " ++ Text.quoted name) start
      else
        modify (fun reading => { reading with handles := reading.handles ++ [(name, lead)] })
        directives versioned bound
    | .directive .other =>
      let _ ← pass
      directives versioned bound
    | _ => pure ()

/-- The start of a document, behind its declarations. -/
def openDocument (bound : Nat) : Read Unit := do
  directives false bound
  expect .documentStart none "'<document start>', but found"

/-- Whether a token ends an empty document. -/
def endsEmpty : Token → Bool
  | .directive _ | .documentStart | .documentEnd | .streamEnd => true
  | _ => false

/-- Passes the ends of a document, by the number of its outermost node. No other document
may follow. -/
def finish (number bound : Nat) : Read Unit := do
  let _ ← items (fun token => decide (token = .documentEnd)) pass bound
  let start ← here
  if (← peek) = .streamEnd then pure ()
  else
    modify (fun reading => { reading with handles := [] })
    openDocument bound
    let first := (← get).graph.start number
    refuse (some ⟨"expected a single document in the stream", first⟩)
      "but found another document" start

/-- The number of the one document's outermost node, if there is a document. -/
def document (bound : Nat) : Read (Option Nat) := do
  match ← peek with
  | .streamEnd => pure none
  | .directive _ | .documentStart =>
    openDocument bound
    let number ← if endsEmpty (← peek) then empty (← here) else node true false bound
    finish number bound
    pure (some number)
  | _ =>
    let number ← node true false bound
    finish number bound
    pure (some number)

end Read

/-- The graph of the one document of a text, and the number of its outermost node if
the text has a document. -/
def Graph.ofText (text : Text) : Except Fault (Graph × Option Nat) := do
  let scanner ← Scanner.start text
  let bound := 2 * text.length + 4
  let (number, reading) ← StateT.run (Read.document bound) { scanner := scanner }
  pure (reading.graph, number)

end SchemaForge.Yaml

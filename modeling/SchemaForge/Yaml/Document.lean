import SchemaForge.Data.Members
import SchemaForge.Yaml.Graph

/-!
# Documents as data

The meaning of a document. Collections are filled one after the other, in the
order in which they were met: the outermost one first, then those inside it, and
so on inwards. Scalars have their value as soon as they are met, so a fault of
a scalar counts only if no collection before its own has one.

A mapping takes over the pairs of the mappings that its merge keys name, in front
of its own. Sequences, mappings and sets are no keys.

`load` reads a text. Collections that hold themselves are cut off where they would
start again, as seen from each value of the outermost mapping.
-/

namespace SchemaForge.Yaml

/-- The value of a node: complete, or a collection by its number. -/
inductive Piece where
  | value (data : Data)
  | collection (number : Nat)

instance : Inhabited Piece := ⟨.value .null⟩

/-- A filled collection. -/
inductive Collection where
  | list (items : List Piece)
  | mapping (pairs : List (Data × Piece))
  | set (members : List Data)
  /-- Keys with values, each in its place, whether or not a key could be one. -/
  | pairs (entries : List (Piece × Piece))

instance : Inhabited Collection := ⟨.list []⟩

/-- The state of a building. -/
structure Building where
  /-- The nodes of the document. Merges change them. -/
  graph : Graph
  /-- The values of nodes so far. -/
  pieces : Array (Option Piece)
  /-- The filled collections, each under the number of its node. -/
  collections : Array Collection
  /-- The nodes of the collections that are to be filled, in order. -/
  waiting : List Nat := []

/-- A step of a building; it fails where a document has no meaning. -/
abbrev Build (α : Type) := StateT Building (Except Fault) α

namespace Build

/-- The bound of a loop is used up. The bounds are chosen so that no document brings it
about. -/
def exhausted {α : Type} : Build α := throw (.malformed default)

/-- The document has no meaning, for a problem at a place. -/
def refuse {α : Type} (activity : Option Activity) (problem : Text) (place : Place) : Build α :=
  throw (.malformed (.problem activity problem place))

/-- The nodes of the document. -/
def graph : Build Graph := return (← get).graph

/-- Changes the nodes of the document. -/
def changeGraph (change : Graph → Graph) : Build Unit :=
  modify (fun building => { building with graph := change building.graph })

/-! ## Scalars -/

/-- A node is not of the kind that its tag asks for. -/
def otherKind (expected : Text) (node : Node) : Fault :=
  .malformed (.problem none
    (Text.concat ["expected a ", expected, " node, but found ", node.content.label]) node.start)

/-- The text of a node. A mapping has the text of its default value. The search comes to
an end after as many steps as there are nodes, unless it goes round in a circle. -/
def text (graph : Graph) : Nat → Nat → Except Fault Text
  | 0, _ => .error .endless
  | bound + 1, number =>
    match (graph.node number).content with
    | .scalar text => .ok text
    | .sequence _ => .error (otherKind "scalar" (graph.node number))
    | .mapping pairs =>
      match pairs.find? (fun pair => graph.tag pair.1 = .default) with
      | some (_, value) => text graph bound value
      | none => .error (otherKind "scalar" (graph.node number))

/-- The text of a node where a moment is meant. It must be the node's own. -/
def momentText (graph : Graph) (number : Nat) (text : Text) : Except Fault Text :=
  match (graph.node number).content with
  | .mapping _ => .error .dateOfMapping
  | _ => .ok text

/-- The value of a node with a tag that is not one of a collection. -/
def scalarData (graph : Graph) (number : Nat) (tag : Tag) : Except Fault Data := do
  let text := text graph (graph.size + 1) number
  match tag with
  | .null => do
    let _ ← text
    pure .null
  | .bool => Scalar.readBool (← text)
  | .int => Scalar.readInt (← text)
  | .float => Scalar.readFloat number (← text)
  | .binary => Scalar.readBytes (graph.start number) (← text)
  | .timestamp => Scalar.readMoment (← momentText graph number (← text))
  | .text => return .text (← text)
  | other =>
    let problem := "could not determine a constructor for the tag " ++ Text.quoted other.name
    throw (.malformed (.problem none problem (graph.start number)))

/-! ## Collections -/

/-- Whether a tag is one of a collection. -/
def isCollection (tag : Tag) : Bool :=
  [Tag.sequence, .mapping, .set, .orderedPairs, .pairs].contains tag

/-- Remembers the value of a node. -/
def remember (number : Nat) (piece : Piece) : Build Unit :=
  modify (fun building =>
    { building with pieces := building.pieces.setIfInBounds number (some piece) })

/-- The value of a node. A collection that is met for the first time waits to be
filled. -/
def piece (number : Nat) : Build Piece := do
  let building ← get
  let tag := building.graph.tag number
  match (building.pieces[number]?).join with
  | some piece => pure piece
  | none =>
    if isCollection tag then
      remember number (.collection number)
      modify (fun building => { building with waiting := building.waiting ++ [number] })
      pure (.collection number)
    else
      let data ← scalarData building.graph number tag
      remember number (.value data)
      pure (.value data)

/-- The first pair that asks for a merge, and the others. -/
def splitMerge? (graph : Graph) (pairs : List (Nat × Nat)) :
    Option (Nat × List (Nat × Nat)) :=
  let isMerge (pair : Nat × Nat) : Bool := graph.tag pair.1 = .merge
  match pairs.find? isMerge with
  | none => none
  | some (_, value) => some (value, pairs.eraseP isMerge)

/-- A mapping that starts at a place, as what is being read. -/
def readingMapping (start : Place) : Activity := ⟨"while constructing a mapping", start⟩

/-- Merges mappings into a mapping, whose pairs come last. What they merge themselves
comes first; of several mappings in a sequence, the last one. A default key is a text
from then on. Every step takes away one wish for a merge, and their number is the
bound. -/
def merge (gathered : List (Nat × Nat)) : Nat → Nat → Build Unit
  | 0, _ => exhausted
  | bound + 1, number => do
    let current ← graph
    match splitMerge? current (current.pairs number) with
    | none =>
      let pairs := gathered ++ current.pairs number
      changeGraph (fun graph => graph.withContent number (.mapping pairs))
      for (key, _) in pairs do
        if current.tag key = .default then
          changeGraph (fun graph => graph.withTag key .text)
    | some (value, pairs) =>
      changeGraph (fun graph => graph.withContent number (.mapping pairs))
      let refuseMerge {α : Type} (expected : Text) (other : Nat) : Build α := do
        let node := (← graph).node other
        let problem :=
          Text.concat ["expected a mapping ", expected, "for merging, but found ",
            node.content.label]
        refuse (some (readingMapping (current.start number))) problem node.start
      let mergeOne (other : Nat) : Build (List (Nat × Nat)) := do
        match ((← graph).node other).content with
        | .mapping _ =>
          merge [] bound other
          pure ((← graph).pairs other)
        | _ => refuseMerge [] other
      match (current.node value).content with
      | .scalar _ => refuseMerge "or list of mappings " value
      | .mapping _ => merge (gathered ++ (← mergeOne value)) bound number
      | .sequence items =>
        let merged ← items.mapM mergeOne
        merge (gathered ++ merged.reverse.flatten) bound number

/-- A key of a mapping, which must be complete. -/
def key (mapping number : Nat) : Build Data := do
  match ← piece number with
  | .value data => pure data
  | .collection _ =>
    let current ← graph
    refuse (some (readingMapping (current.start mapping))) "found unhashable key"
      (current.start number)

/-- The pairs of a mapping, with what is merged into it. A key that comes again keeps
its place and takes the later value. -/
def mappingPairs (number : Nat) : Build (List (Data × Piece)) := do
  let current ← graph
  match (current.node number).content with
  | .mapping _ =>
    merge [] (current.pairCount + 1) number
    let pairs ← ((← graph).pairs number).mapM (fun pair => do
      let key ← key number pair.1
      let value ← piece pair.2
      pure (key, value))
    pure (pairs.foldl (fun held pair => Data.putPair held pair.1 pair.2) [])
  | _ => throw (otherKind "mapping" (current.node number))

/-- The items of a sequence. -/
def sequenceItems (number : Nat) : Build (List Piece) := do
  let current ← graph
  match (current.node number).content with
  | .sequence items => items.mapM piece
  | _ => throw (otherKind "sequence" (current.node number))

/-- The one pair of a mapping. -/
def singlePair (activity : Activity) (number : Nat) : Build (Piece × Piece) := do
  let node := (← graph).node number
  match node.content with
  | .mapping [(key, value)] =>
    let key ← piece key
    let value ← piece value
    pure (key, value)
  | .mapping pairs =>
    let count := Text.ofNat pairs.length
    refuse (some activity)
      (Text.concat ["expected a single mapping item, but found ", count, " items"]) node.start
  | other =>
    refuse (some activity) ("expected a mapping of length 1, but found " ++ other.label) node.start

/-- The pairs of a sequence of mappings, under the name that the tag gives to it. -/
def pairItems (label : Text) (number : Nat) : Build (List (Piece × Piece)) := do
  let node := (← graph).node number
  let activity : Activity := ⟨"while constructing " ++ label, node.start⟩
  match node.content with
  | .sequence items => items.mapM (singlePair activity)
  | other => refuse (some activity) ("expected a sequence, but found " ++ other.label) node.start

/-- A collection by the tag of its node. -/
def collection (number : Nat) : Build Collection := do
  match (← graph).tag number with
  | .mapping => return .mapping (← mappingPairs number)
  | .set => return .set ((← mappingPairs number).map Prod.fst)
  | .orderedPairs => return .pairs (← pairItems "an ordered map" number)
  | .pairs => return .pairs (← pairItems "pairs" number)
  | _ => return .list (← sequenceItems number)

/-- Fills the collections that wait, and those that come to wait. -/
def fillAll : Nat → Build Unit
  | 0 => exhausted
  | bound + 1 => do
    match (← get).waiting with
    | [] => pure ()
    | number :: others =>
      modify (fun building => { building with waiting := others })
      let filled ← collection number
      modify (fun building =>
        { building with collections := building.collections.setIfInBounds number filled })
      fillAll bound

/-- The value of a node with all collections filled. -/
def complete (number : Nat) : Build Piece := do
  let outermost ← piece number
  fillAll ((← graph).size + 1)
  pure outermost

end Build

/-! ## Unfolding -/

/-- The state of an unfolding. -/
structure Unfolding where
  /-- The data of collections that are the same wherever they stand. -/
  known : Array (Option Data)
  /-- How often a collection has been cut off. -/
  cuts : Nat := 0

/-- A step of an unfolding. -/
abbrev Unfold (α : Type) := StateM Unfolding α

namespace Unfold

/-- Cuts off a collection that is around itself. -/
def cutOff (held : Collection) : Unfold Data := do
  modify (fun unfolding => { unfolding with cuts := unfolding.cuts + 1 })
  match held with
  | .mapping _ => pure .sameMapping
  | _ => pure .sameList

/-- The data of a collection, given the data of its pieces. -/
def ofCollection (unfold : Piece → Unfold Data) : Collection → Unfold Data
  | .list items => return .list (← items.mapM unfold)
  | .mapping pairs => return .mapping (← pairs.mapM (fun pair => return (pair.1, ← unfold pair.2)))
  | .set members => pure (.set (Data.listedMembers members))
  | .pairs entries =>
    return .list (← entries.mapM (fun entry => return .pair (← unfold entry.1) (← unfold entry.2)))

/-- The data of a piece inside some collections. The nesting is bounded by the number of
collections, for none is unfolded inside itself. Data in which nothing was cut off is
kept for the next place where the collection stands. -/
def ofPiece (collections : Array Collection) (around : List Nat) : Nat → Piece → Unfold Data
  | _, .value data => pure data
  | 0, .collection number => cutOff (collections.getD number default)
  | bound + 1, .collection number => do
    let known := ((← get).known[number]?).join
    let cuts := (← get).cuts
    let held := collections.getD number default
    match known with
    | some data => pure data
    | none =>
      if around.contains number then cutOff held
      else
        let data ← ofCollection (ofPiece collections (number :: around) bound) held
        modify (fun after =>
          if after.cuts = cuts then
            { after with known := after.known.setIfInBounds number (some data) }
          else after)
        pure data

end Unfold

/-- The data of a document. The values of an outermost mapping are unfolded each on its
own. -/
def unfold (collections : Array Collection) (outermost : Piece) : Data :=
  let outer : Unfold Data :=
    match outermost with
    | .value data => pure data
    | .collection number =>
      Unfold.ofCollection (Unfold.ofPiece collections [] collections.size)
        (collections.getD number default)
  (StateT.run outer ⟨Array.replicate collections.size none, 0⟩).1

/-- The data of the one document of a text. A text without a document is nothing. -/
def load (text : Text) : Except Fault Data := do
  let (graph, outermost) ← Graph.ofText text
  match outermost with
  | none => pure .null
  | some number =>
    let start : Building :=
      ⟨graph, Array.replicate graph.size none, Array.replicate graph.size default, []⟩
    let (piece, built) ← StateT.run (Build.complete number) start
    pure (unfold built.collections piece)

end SchemaForge.Yaml

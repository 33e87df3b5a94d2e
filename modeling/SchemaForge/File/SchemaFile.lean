import SchemaForge.Workspace

/-!
# Schema files

Where schemas are found and how they are handed on. The schemas to generate lie
anywhere below a source directory. A build hands its schemas on to others by
copying them flat into a fixed directory below a root of its choice, and reads
those of others from the same place below theirs.
-/

namespace SchemaForge

/-- A schema file with the name it has in diagnostics. -/
structure SchemaFile where
  /-- Where the file is. -/
  path : Path
  /-- The path below the directory it was found in. -/
  locator : Text
deriving DecidableEq, Inhabited

namespace SchemaFile

/-- The suffixes of schema files. -/
def suffixes : List Text := [".graphql", ".graphqls"]

/-- The directory in which schemas are handed on. -/
def exchangeDirectory : Text := "graphql-apigen-schema"

/-- Whether a file name is that of a schema. -/
def isSchemaPath (path : Path) : Bool := suffixes.contains path.suffix

/-- The schema files below a directory, ordered part by part. -/
def below (tree : FileTree) (base : Path) (depth : Option Nat) : List (List Text) :=
  match tree.locate base with
  | .error _ => []
  | .ok location =>
    let found :=
      (tree.filesBelow location).filter (fun parts =>
        isSchemaPath ⟨[], parts⟩ && depth.all (fun bound => parts.length ≤ bound))
    found.mergeSort Path.partsLe

/-- Every schema file below a directory. A missing directory has none. -/
def find (base : Path) : Action (List SchemaFile) := do
  let tree ← Action.tree
  if ← Action.asks (fun tree => tree.isDirectory base) then
    pure ((below tree base none).map (fun parts =>
      ⟨⟨base.root, base.parts ++ parts⟩, Text.join "/" parts⟩))
  else
    Action.tell (.noSchemas base.display)
    pure []

/-- The schemas that a dependency hands on. -/
def findPublishedBy (root : Text) : Action (List SchemaFile) := do
  let tree ← Action.tree
  let directory := (Path.ofText root).join exchangeDirectory
  if ← Action.asks (fun tree => tree.isDirectory directory) then
    pure ((below tree directory (some 1)).map (fun parts =>
      ⟨⟨directory.root, directory.parts ++ parts⟩,
        Text.join "/" (exchangeDirectory :: parts)⟩))
  else
    Action.tell (.noPublished root)
    pure []

/-- The schemas that several dependencies hand on, in their order. -/
def findPublished (roots : List Text) : Action (List SchemaFile) := do
  let found ← roots.mapM findPublishedBy
  pure found.flatten

/-- The text of a schema. Bytes that are no UTF-8 are a refusal like any other. -/
def read (tree : FileTree) (file : SchemaFile) : Except FileFault Text :=
  match tree.readText file.path with
  | .error (.undecodable fault) => .error (.schemaNotUtf8 file.path.display fault)
  | other => other

/-- The diagnostic of a schema that cannot be read. -/
def unreadable (locator reason : Text) : Diagnostic :=
  { severity := .error, code := "APG005",
    message := "Cannot read schema resource: " ++ reason,
    location := locator, rule := "SchemaResource" }

/-- Copies one schema into a directory. A copy that replaces one of this run is worth
a warning. -/
def publishInto (destination : Path) (written : List Path) (file : SchemaFile) :
    Action (List Path) := do
  Action.files (FileAction.makeDirectories destination)
  let target := destination.join file.path.name
  if written.contains target then Action.tell (.overwrote file.locator)
  Action.files (FileAction.copy file.path target)
  Action.tell (.published file.locator target.display)
  pure (written ++ [target])

/-- Hands on every schema below a source directory. -/
def publish (source root : Path) : Action (List Path) := do
  let found ← find source
  found.foldlM (publishInto (root.join exchangeDirectory)) []

end SchemaFile

end SchemaForge

import SchemaForge.Failure
import SchemaForge.File.Tree
import SchemaForge.Log
import SchemaForge.Module.Name

/-!
# Sinks

A sink takes the text of a module for a type in a package. It either stores the
text or has a reason not to, and its state goes on in both cases. A memory sink
keeps the last text of each type; a file sink lays the modules out as packages
below a root, with a marker file in every directory on the way.
-/

namespace SchemaForge

/-- What came of handing a module to a sink. -/
structure Delivery (σ : Type) where
  /-- The sink afterwards. -/
  state : σ
  /-- The events on the way. -/
  log : List LogEvent
  /-- Whether the module was stored. -/
  outcome : Except FileFault Unit

/-- A destination of modules with a state of its own. -/
structure Sink (σ : Type) where
  /-- The rule of diagnostics about this sink. -/
  rule : Text
  /-- Hands the module of a type in a package to the sink. -/
  write : σ → (package typeName text : Text) → Delivery σ

/-! ## Memory -/

/-- The modules kept in memory: package, type and text, in the order first written. -/
structure MemoryStore where
  /-- The modules, each package and type once. -/
  modules : List (Text × Text × Text) := []
deriving DecidableEq, Inhabited

namespace MemoryStore

/-- The text kept for a type in a package. -/
def find? (store : MemoryStore) (package typeName : Text) : Option Text :=
  (store.modules.find? (fun (heldPackage, heldType, _) =>
    decide (heldPackage = package) && decide (heldType = typeName))).map (fun held => held.2.2)

/-- Keeps a text, in place of the one before if there was one. -/
def put (store : MemoryStore) (package typeName text : Text) : MemoryStore :=
  let isSame (held : Text × Text × Text) : Bool :=
    decide (held.1 = package) && decide (held.2.1 = typeName)
  if store.modules.any isSame then
    ⟨store.modules.map (fun held => if isSame held then (package, typeName, text) else held)⟩
  else ⟨store.modules ++ [(package, typeName, text)]⟩

/-- The number of modules kept. -/
def size (store : MemoryStore) : Nat := store.modules.length

end MemoryStore

/-- A sink that keeps modules in memory. -/
def memorySink : Sink MemoryStore :=
  ⟨"MemorySink", fun store package typeName text =>
    ⟨store.put package typeName text, [], .ok ()⟩⟩

/-! ## Files -/

/-- Modules written to files below a root. -/
structure FileStore where
  /-- The root of the packages. -/
  root : Path
  /-- The files as they are. -/
  tree : FileTree
  /-- The files written, in order. -/
  written : List Path := []
deriving DecidableEq, Inhabited

namespace FileStore

/-- The file that marks a directory as a package. -/
def marker : Text := "__init__.py"

/-- The file of a module: the parts of its package below the root, then its name. A
part of a package may itself be a path, and an absolute one forgets the root. -/
def pathFor (root : Path) (package typeName : Text) : Path :=
  ((Text.splitOn ('.' : Char) package).foldl Path.join root).join
    (ModuleName.ofType typeName ++ ".py")

/-- Puts an empty marker into a directory that has none. -/
def mark (directory : Path) : FileAction Unit := do
  let markerPath := directory.join marker
  if (← get).has markerPath then pure () else FileAction.writeText markerPath []

/-- Marks a directory and its parents up to the root, which is not marked. The number
of parents to look at is bounded by the parts of the path. -/
def markUpwards (root : Path) : Nat → Path → FileAction Unit
  | 0, _ => pure ()
  | bound + 1, directory => do
    if directory.isBelow root then
      mark directory
      markUpwards root bound directory.parent
    else pure ()

/-- Makes the directory of a module, marks the packages and writes the file. -/
def writeModule (root path : Path) (text : Text) : FileAction Unit := do
  let directory := path.parent
  FileAction.makeDirectories directory
  markUpwards root directory.parts.length directory
  FileAction.writeText path text

/-- Writes the module of a type. A module that cannot be written is not listed, though
directories and markers made on the way stay. -/
def write (store : FileStore) (package typeName text : Text) : Delivery FileStore :=
  let path := pathFor store.root package typeName
  let (outcome, tree) := StateT.run (writeModule store.root path text).run store.tree
  match outcome with
  | .ok () =>
    ⟨{ store with tree := tree, written := store.written ++ [path] }, [.wrote path.display],
      .ok ()⟩
  | .error fault => ⟨{ store with tree := tree }, [], .error fault⟩

end FileStore

/-- A sink that writes modules to files. -/
def fileSink : Sink FileStore := ⟨"FileSink", FileStore.write⟩

end SchemaForge

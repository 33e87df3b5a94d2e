import SchemaForge.File.Fault
import SchemaForge.Text.Lines

/-!
# File trees

The files and directories that a run can see, as a value. A node is found by its
location, which is the list of names from the root; the root itself is always a
directory. An operation on a path first walks the path, part by part, through
directories that must exist, and then acts on the one node at its end: no
operation touches any other node. Names with the same bytes are the same name.

Actions are state transformers that keep the tree they reached when they fail, so
that what was done before a fault stays done.
-/

namespace SchemaForge

/-- The names from the root to a node. -/
abbrev Location := List Text

/-- A file with its bytes, or a directory. -/
inductive FileNode where
  | file (bytes : List UInt8)
  | directory
deriving DecidableEq, Inhabited

/-- The files and directories that a run can see. -/
structure FileTree where
  /-- The nodes below the root, each location once. -/
  nodes : List (Location × FileNode)
  /-- Where relative paths start. -/
  workingDirectory : Location
deriving DecidableEq, Inhabited

namespace FileTree

/-- The node at a location. -/
def find? (tree : FileTree) (location : Location) : Option FileNode :=
  if location.isEmpty then some .directory
  else (tree.nodes.find? (fun node => decide (node.1 = location))).map Prod.snd

/-- The tree with a node at a location, in place of the one before if there was one. -/
def put (tree : FileTree) (location : Location) (node : FileNode) : FileTree :=
  if tree.nodes.any (fun held => decide (held.1 = location)) then
    { tree with
      nodes := tree.nodes.map (fun held =>
        if held.1 = location then (location, node) else held) }
  else { tree with nodes := tree.nodes ++ [(location, node)] }

/-- The tree without a location and what lies below it. -/
def erase (tree : FileTree) (location : Location) : FileTree :=
  { tree with
    nodes := tree.nodes.filter (fun held =>
      !decide (held.1.take location.length = location)) }

/-- The longest name that a directory takes, in bytes. -/
def maxNameLength : Nat := 255

/-- The longest path that can be asked for, in bytes. -/
def maxPathLength : Nat := 4095

/-- Whether a name is too long for a directory. A name without bytes is refused
before this is asked. -/
def isTooLong (name : Text) : Bool :=
  match Utf8.encodeName name with
  | .ok bytes => maxNameLength < bytes.length
  | .error _ => false

/-- Walks down from a location. Every part must be asked of a directory. -/
def walk (tree : FileTree) (display : Text) : Location → List Text → Except FileFault Location
  | location, [] => .ok location
  | location, part :: parts =>
    match tree.find? location with
    | none => .error (.missing display)
    | some (.file _) => .error (.notDirectory display)
    | some .directory =>
      if isTooLong part then .error (.nameTooLong display)
      else if part = (".." : Text) then walk tree display location.dropLast parts
      else walk tree display (location ++ [Utf8.canonicalName part]) parts

/-- The location of a path under the spelling that faults name, at which there need not be
a node. -/
def locateAs (tree : FileTree) (display : Text) (path : Path) : Except FileFault Location :=
  match Utf8.encodeName display with
  | .error fault => .error (.unencodable fault)
  | .ok bytes =>
    if Text.contains (CodePoint.ofNat 0) display then .error .embeddedNull
    else if maxPathLength < bytes.length then .error (.nameTooLong display)
    else walk tree display (if path.isAbsolute then [] else tree.workingDirectory) path.parts

/-- The location of a path, at which there need not be a node. -/
def locate (tree : FileTree) (path : Path) : Except FileFault Location :=
  tree.locateAs path.display path

/-- The node at a path, if the path can be walked and there is one. -/
def nodeAt? (tree : FileTree) (path : Path) : Option FileNode :=
  match tree.locate path with
  | .ok location => tree.find? location
  | .error _ => none

/-- Whether there is anything at a path. -/
def has (tree : FileTree) (path : Path) : Bool := (tree.nodeAt? path).isSome

/-- Whether there is a directory at a path. -/
def hasDirectory (tree : FileTree) (path : Path) : Bool :=
  tree.nodeAt? path = some .directory

/-- The answer to the question whether there is a directory at a path. A path that is
too long is refused; any other path that cannot be walked leads to no directory. -/
def isDirectory (tree : FileTree) (path : Path) : Except FileFault Bool :=
  match tree.locate path with
  | .error (.nameTooLong display) => .error (.nameTooLong display)
  | _ => .ok (tree.hasDirectory path)

/-- The bytes of the file at a path. -/
def read (tree : FileTree) (path : Path) : Except FileFault (List UInt8) :=
  match tree.locate path with
  | .error fault => .error fault
  | .ok location =>
    match tree.find? location with
    | none => .error (.missing path.display)
    | some .directory => .error (.isDirectory path.display)
    | some (.file bytes) => .ok bytes

/-- The text of the file at a path, with every spelling of a new line read as one. -/
def readText (tree : FileTree) (path : Path) : Except FileFault Text :=
  match tree.read path with
  | .error fault => .error fault
  | .ok bytes =>
    match Utf8.decode bytes with
    | .error fault => .error (.undecodable fault)
    | .ok text => .ok (Text.normalizeNewlines text)

/-- The locations of the files below a directory, with the names that lead there. -/
def filesBelow (tree : FileTree) (directory : Location) : List (List Text) :=
  tree.nodes.filterMap (fun (location, node) =>
    match node with
    | .directory => none
    | .file _ =>
      if directory.length < location.length && location.take directory.length = directory then
        some (location.drop directory.length)
      else none)

/-- Whether two paths lead to one node. -/
def isSameFile (tree : FileTree) (left right : Path) : Bool :=
  match tree.locate left, tree.locate right with
  | .ok location, .ok other => location = other && (tree.find? location).isSome
  | _, _ => false

end FileTree

/-- A file operation. It keeps the tree it reached, also when it fails. -/
abbrev FileAction (α : Type) := ExceptT FileFault (StateM FileTree) α

namespace FileAction

/-- Fails with a fault. -/
def fault {α : Type} (fault : FileFault) : FileAction α := throw fault

/-- Makes a directory. Its parent must exist, and there must be nothing at the path. -/
def makeDirectory (path : Path) : FileAction Unit := do
  let tree ← get
  match tree.locate path with
  | .error reason => fault reason
  | .ok location =>
    if (tree.find? location).isSome then fault (.alreadyExists path.display)
    else set (tree.put location .directory)

/-- A refusal is no failure if there is a directory at the path all the same. -/
def unlessDirectory (path : Path) (reason : FileFault) : FileAction Unit := do
  if reason.isRefusal && (← get).hasDirectory path then pure () else fault reason

/-- Makes the directory with the first `count` parts of a path, and its parents where
they are missing. A directory that is there already stays. -/
def makeDirectoriesUpTo (path : Path) : Nat → FileAction Unit
  | 0 =>
    let shorter : Path := ⟨path.root, []⟩
    tryCatch (makeDirectory shorter) (fun reason => unlessDirectory shorter reason)
  | count + 1 =>
    let shorter : Path := ⟨path.root, path.parts.take (count + 1)⟩
    tryCatch (makeDirectory shorter) (fun reason =>
      match reason with
      | .missing _ => do
        makeDirectoriesUpTo path count
        tryCatch (makeDirectory shorter) (fun again =>
          match again with
          | .missing _ => fault again
          | _ => unlessDirectory shorter again)
      | _ => unlessDirectory shorter reason)

/-- Makes a directory and its parents where they are missing. -/
def makeDirectories (path : Path) : FileAction Unit :=
  makeDirectoriesUpTo path path.parts.length

/-- Replaces the bytes of a file, or makes a file with them. -/
def write (path : Path) (bytes : List UInt8) : FileAction Unit := do
  let tree ← get
  match tree.locate path with
  | .error reason => fault reason
  | .ok location =>
    match tree.find? location with
    | some .directory => fault (.isDirectory path.display)
    | _ => set (tree.put location (.file bytes))

/-- Replaces the content of a file, or makes a file with it. A text without bytes is
noticed when the file is empty already. -/
def writeText (path : Path) (text : Text) : FileAction Unit := do
  write path []
  match Utf8.encode text with
  | .error reason => fault (.unencodable reason)
  | .ok bytes => write path bytes

/-- Replaces the bytes of a file, or makes a file with them and the directories above
it. -/
def writeBelow (path : Path) (bytes : List UInt8) : FileAction Unit := do
  makeDirectories path.parent
  write path bytes

/-- Takes away the file at a path as it is spelled. A spelling that ends with a slash or a
single dot means a directory, which is not taken away; the empty one means nothing. -/
def remove (spelling : Text) : FileAction Unit := do
  let tree ← get
  let last := (Text.splitOn ('/' : Char) spelling).getLastD []
  match tree.locateAs spelling (Path.ofText spelling) with
  | .error reason => fault reason
  | .ok location =>
    match tree.find? location with
    | none => fault (.missing spelling)
    | some .directory =>
      fault (if spelling.isEmpty then .missing spelling else .isDirectory spelling)
    | some (.file _) =>
      if last.isEmpty || last = ("." : Text) then fault (.notDirectory spelling)
      else set (tree.erase location)

/-- Copies the bytes of a file to another path, which must not lead to the same file. -/
def copy (source target : Path) : FileAction Unit := do
  let tree ← get
  if tree.isSameFile source target then fault (.sameFile source.display target.display)
  else
    match tree.read source with
    | .error reason => fault reason
    | .ok bytes => write target bytes

end FileAction

end SchemaForge

import SchemaForge.Command.Report

/-!
# The command line

The outer layer: it reads the files that a command can reach into a tree, lets the
command work on the tree, writes back what has changed, and prints the report.
Nothing is decided here.
-/

namespace SchemaForge.CommandLine

/-- A text as a string. -/
def string (text : Text) : String := String.ofList (text.map (fun c => Char.ofNat c.val))

/-- The absolute spelling of a location. -/
def spelling (location : Location) : String := string ("/" ++ Text.join "/" location)

/-- Where relative paths start. -/
def workingDirectory : IO Location := do
  let here ← IO.currentDir
  pure (Path.ofText (Text.ofString here.toString)).parts

/-- What stands at a location, if anything does. -/
def nodeAt (location : Location) : IO (Option FileNode) := do
  let path := (← IO.currentDir) / spelling location
  if ← path.isDir then pure (some .directory)
  else if ← path.pathExists then
    let bytes ← IO.FS.readBinFile path
    pure (some (.file bytes.toList))
  else pure none

/-- The nodes at and below a location. -/
partial def nodesFrom (location : Location) : IO (List (Location × FileNode)) := do
  match ← nodeAt location with
  | none => pure []
  | some (.file bytes) => pure [(location, .file bytes)]
  | some .directory =>
    let entries ← ((← IO.currentDir) / spelling location).readDir
    let below ← entries.toList.mapM (fun entry =>
      nodesFrom (location ++ [Text.ofString entry.fileName]))
    pure ((location, .directory) :: below.flatten)

/-- The location of a path when every step down is taken as it is spelled. -/
def lexicalLocation (start : Location) (path : Path) : Location :=
  path.parts.foldl (fun location part =>
    if part = (".." : Text) then location.dropLast else location ++ [part])
    (if path.isAbsolute then [] else start)

/-- The tree of everything at, above and below some paths. -/
def snapshot (paths : List Path) : IO FileTree := do
  let start ← workingDirectory
  let locations := (Path.here :: paths).map (lexicalLocation start)
  let above := (locations.flatMap (fun location =>
    (List.range location.length).map (fun count => location.take (count + 1)))).eraseDups
  let outer ← above.filterMapM (fun location => do
    pure ((← nodeAt location).map (fun node => (location, node))))
  let inner ← (paths.map (lexicalLocation start)).mapM nodesFrom
  let empty : FileTree := ⟨[], start⟩
  pure ((outer ++ inner.flatten).foldl (fun tree (location, node) => tree.put location node) empty)

/-- Writes what is new or changed in a tree. -/
def writeBack (before after : FileTree) : IO Unit := do
  for (location, node) in after.nodes do
    if before.find? location ≠ some node then
      let path := (← IO.currentDir) / spelling location
      match node with
      | .directory => IO.FS.createDirAll path
      | .file bytes => IO.FS.writeBinFile path ⟨bytes.toArray⟩

/-- The paths that a request can reach. -/
def reachOf (request : Request) : IO (List Path) := do
  match request with
  | .showVersion | .showHelp => pure []
  | .run _ command =>
    match command.settings? with
    | none => pure []
    | some settings =>
      let file := settings.configFile.toList.map Path.ofText
      let tree ← snapshot file
      let (loaded, _) := StateT.run (Command.loadSettings settings).run { tree := tree }
      match loaded with
      | .ok (.ok config) => pure (file ++ command.reach config)
      | _ => pure file

/-- Prints a line to the error stream. -/
def complain (line : Text) : IO Unit := IO.eprintln (string line)

/-- Answers a request and gives the exit status. -/
def answer (request : Request) : IO UInt32 := do
  let before ← snapshot (← reachOf request)
  let answer := request.answer before
  writeBack before answer.tree
  IO.print (string answer.display.output)
  IO.eprint (string answer.display.errors)
  answer.failure.forM (fun failure => complain failure.message)
  pure (UInt32.ofNat answer.status)

end SchemaForge.CommandLine

/-- The program. -/
def main (arguments : List String) : IO UInt32 := do
  match SchemaForge.Request.ofArguments (arguments.map SchemaForge.Text.ofString) with
  | .ok request => SchemaForge.CommandLine.answer request
  | .error fault =>
    SchemaForge.CommandLine.complain fault.message
    pure (UInt32.ofNat SchemaForge.Report.usageStatus)

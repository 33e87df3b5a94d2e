import SchemaForge.Command.Display
import SchemaForge.Command.Request
import SchemaForge.Registry.Listing
import SchemaForge.Session

/-!
# Reports

What a command tells and how it ends. Findings do not stop a command; they are
shown in a table, and any error among them makes the command fail. A configuration
that cannot be used ends it before anything is loaded.
-/

namespace SchemaForge

/-- The version of the program. -/
def programVersion : Text := "0.1.0"

/-- What a command tells and how it ends. -/
structure Report where
  /-- What it tells, in order. -/
  notices : List Notice := []
  /-- Whether the command succeeded. -/
  success : Bool := true
deriving Inhabited

namespace Report

/-- The exit status of a command line that cannot be read. -/
def usageStatus : Nat := 2

/-- The report of a configuration that cannot be used. -/
def ofComplaint (problem : Problem) : Report :=
  { notices :=
      [.complaint (Text.concat
        [Markup.styled "red" "Configuration error:", " ", problem.report])],
    success := false }

end Report

namespace Command

/-- The settings of a command, or the problem with its configuration file. -/
def loadSettings (options : SettingOptions) : Action (Except Problem Config) := do
  match options.configFile with
  | none => pure (.ok (({} : Config).withOverrides options.overrides))
  | some file =>
    match Config.load Yaml.load (← Action.tree) (Path.ofText file) with
    | .ok config => pure (.ok (config.withOverrides options.overrides))
    | .error (.problem problem) => pure (.error problem)
    | .error failure => Action.fail failure

/-- Generates modules and lists the files written. -/
def reportGeneration (config : Config) : Action Report := do
  let (written, result) ← runToFiles config config.outputDirectory
  let lines :=
    written.map (fun path =>
      Notice.line (Text.concat [Markup.styled "green" "Written:", " ", path.display]))
  let summary := Notice.line (Text.concat [[.lineFeed], Markup.styled "bold" result.summary])
  pure
    { notices := lines ++ Diagnostic.notices "Diagnostics" result.diagnostics ++ [summary],
      success := result.success }

/-- The listing of some entries in a format. -/
def listing (format : ListingFormat) (entries : List Entry) : Text :=
  match format with
  | .json => Listing.json entries
  | .yaml => Listing.yaml entries

/-- Loads schemas and lists the registry, on standard output or in a file. -/
def reportListing (config : Config) (format : ListingFormat) (output : Option Text) :
    Action Report := do
  let (loaded, _) ← (Session.start config.defaultPackage none).load config
  let session := loaded.freeze
  let text := listing format session.registry.describe
  let told ←
    match output with
    | none => pure (Notice.listing text)
    | some file => do
      Action.files (FileAction.writeText (Path.ofText file) text)
      pure (Notice.line (Text.concat [Markup.styled "green" "Registry written to", " ", file]))
  pure
    { notices := told :: Diagnostic.notices "Load problems" session.findings,
      success := !session.findings.any Diagnostic.isError }

/-- The settings options of a command that works with files. -/
def settings? : Command → Option SettingOptions
  | .generate settings => some settings
  | .inspect settings _ _ => some settings
  | .version => none

/-- The paths at and below which a command may look or write, given its settings. The
configuration file is not among them. -/
def reach (config : Config) : Command → List Path
  | .generate _ =>
    [config.sourceDirectory, config.outputDirectory] ++
      (config.referencePaths ++ config.publishDirectory.toList).map (fun root =>
        root.join SchemaFile.exchangeDirectory)
  | .inspect _ _ output =>
    [config.sourceDirectory] ++ output.toList.map Path.ofText ++
      config.referencePaths.map (fun root => root.join SchemaFile.exchangeDirectory)
  | .version => []

/-- Loads the settings of a command and goes on with them. -/
def withSettings (options : SettingOptions) (work : Config → Action Report) : Action Report := do
  match ← loadSettings options with
  | .ok config => work config
  | .error problem => pure (Report.ofComplaint problem)

/-- Runs a command. -/
def execute : Command → Action Report
  | .generate settings => withSettings settings reportGeneration
  | .inspect settings format output =>
    withSettings settings (fun config => reportListing config format output)
  | .version => pure { notices := [.listing (Text.concat ["graphql-apigen v", programVersion])] }

end Command

namespace Request

/-- The least level of events that a request tells. -/
def level : Request → LogLevel
  | run true _ => .debug
  | _ => .warning

/-- The list of the commands. -/
def helpText : Text :=
  Text.join [.lineFeed]
    ["Usage: apigen [--verbose] COMMAND [OPTIONS]", [], "Commands:",
      "  generate  Generate modules from schema files",
      "  inspect   List the registry built from schema files",
      "  version   Show version information"]

/-- Answers a request. -/
def execute : Request → Action Report
  | showVersion => pure { notices := [.listing (Text.concat ["apigen, version ", programVersion])] }
  | showHelp => pure { notices := [.listing helpText] }
  | run _ command => command.execute

end Request

/-- The answer to a request. -/
structure Answer where
  /-- What is seen of it. -/
  display : Display
  /-- What ended it early. -/
  failure : Option Failure
  /-- The exit status. -/
  status : Nat
  /-- The events that it tells. -/
  log : List LogEvent
  /-- The files afterwards. -/
  tree : FileTree

/-- Answers a request. Events are shown before the report. A failure, of the work or of
showing the report, makes the command fail. -/
def Request.answer (request : Request) (tree : FileTree) : Answer :=
  let (outcome, workspace) := StateT.run request.execute.run { tree := tree }
  let log := workspace.log.filter (fun event => request.level.admits event.level)
  let (display, failure) :=
    match outcome with
    | .ok report => Display.showFrom {} (log.map Notice.event ++ report.notices)
    | .error failure => ((Display.showFrom {} (log.map Notice.event)).1, some failure)
  let success :=
    match outcome with
    | .ok report => report.success && failure.isNone
    | .error _ => false
  ⟨display, failure, if success then 0 else 1, log, workspace.tree⟩

end SchemaForge

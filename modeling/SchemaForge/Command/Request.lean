import SchemaForge.Command.Arguments
import SchemaForge.Config
import SchemaForge.Log
import SchemaForge.Text.LetterCase

/-!
# Requests

What a command line asks for. The options before the command concern every
command; those behind it belong to the command and may stand in any order. An
option that is given twice takes the last value, except for the references, which
add up.
-/

namespace SchemaForge

/-- The settings that every working command takes from its options. -/
structure SettingOptions where
  /-- The configuration file, if one is named. -/
  configFile : Option Text := none
  /-- The settings that replace those of the file. -/
  overrides : ConfigOverrides := {}
deriving DecidableEq

/-- The formats of a registry listing. -/
inductive ListingFormat where
  | json | yaml
deriving DecidableEq, Inhabited

/-- The commands. -/
inductive Command where
  /-- Generate modules. -/
  | generate (settings : SettingOptions)
  /-- List the registry, to a file if one is named. -/
  | inspect (settings : SettingOptions) (format : ListingFormat) (output : Option Text)
  /-- Show the version. -/
  | version
deriving DecidableEq

/-- What a command line asks for. -/
inductive Request where
  /-- The version, on one line. -/
  | showVersion
  /-- A list of the commands. -/
  | showHelp
  /-- A command. -/
  | run (verbose : Bool) (command : Command)
deriving DecidableEq

namespace Command

/-- The names of the commands. -/
def names : List Text := ["generate", "inspect", "version"]

/-- The option that asks for help, which every command has. -/
def helpForm : OptionForm := { name := "help", takesValue := false }

/-- The options before the command. -/
def sharedForms : List OptionForm :=
  [{ name := "verbose", letter := some (CodePoint.ofChar 'v'), takesValue := false },
    { name := "version", takesValue := false }, helpForm]

/-- The options that name the schemas. -/
def sourceForms : List OptionForm :=
  [{ name := "config", letter := some (CodePoint.ofChar 'c') },
    { name := "source", letter := some (CodePoint.ofChar 's') },
    { name := "namespace", letter := some (CodePoint.ofChar 'n') },
    { name := "reference", letter := some (CodePoint.ofChar 'r') },
    { name := "output", letter := some (CodePoint.ofChar 'o') }, helpForm]

/-- The options of generation. -/
def generateForms : List OptionForm :=
  sourceForms ++ [{ name := "injection-module" }, { name := "publish" }]

/-- The options of a listing. -/
def inspectForms : List OptionForm := sourceForms ++ [{ name := "format" }]

/-- A text that says something. -/
def nonEmpty? : Option Text → Option Text
  | none | some [] => none
  | some text => some text

/-- The path of an option. An empty one counts as not given. -/
def pathOption? (arguments : Arguments) (name : Text) : Option Path :=
  (nonEmpty? (arguments.value? name)).map Path.ofText

/-- The roots of dependencies, if any are given. -/
def references? (arguments : Arguments) : Option (List Path) :=
  match arguments.values "reference" with
  | [] => none
  | roots => some (roots.map Path.ofText)

/-- The settings of generation. -/
def generateSettings (arguments : Arguments) : SettingOptions :=
  { configFile := arguments.value? "config",
    overrides :=
      { sourceDirectory := pathOption? arguments "source",
        outputDirectory := pathOption? arguments "output",
        defaultPackage := arguments.value? "namespace",
        injectionModule := arguments.value? "injection-module",
        referencePaths := references? arguments,
        publishDirectory := pathOption? arguments "publish" } }

/-- The settings of a listing. -/
def inspectSettings (arguments : Arguments) : SettingOptions :=
  { configFile := arguments.value? "config",
    overrides :=
      { sourceDirectory := pathOption? arguments "source",
        defaultPackage := arguments.value? "namespace",
        referencePaths := references? arguments } }

/-- The format of a listing, in any case of letters. -/
def listingFormat (arguments : Arguments) : Except UsageFault ListingFormat :=
  match arguments.value? "format" with
  | none => .ok .json
  | some name =>
    if Text.folded name = ("json" : Text) then .ok .json
    else if Text.folded name = ("yaml" : Text) then .ok .yaml
    else .error (.invalidChoice "format" name)

/-- Refuses arguments that are no options. -/
def refuseOthers (arguments : Arguments) : Except UsageFault Unit :=
  match arguments.others with
  | [] => .ok ()
  | other :: _ => .error (.extraArgument other)

/-- Reads the arguments of a command. A wish for help comes before what else may be
wrong with the values. -/
def readWith (forms : List OptionForm) (arguments : List Text)
    (command : Arguments → Except UsageFault Command) : Except UsageFault (Option Command) := do
  let arguments ← Arguments.read forms true arguments
  if arguments.has "help" then pure none
  else
    let command ← command arguments
    refuseOthers arguments
    pure (some command)

/-- Reads a command by its name. -/
def read (name : Text) (arguments : List Text) : Except UsageFault (Option Command) :=
  if name = ("generate" : Text) then
    readWith generateForms arguments (fun given => .ok (.generate (generateSettings given)))
  else if name = ("inspect" : Text) then
    readWith inspectForms arguments (fun given =>
      (listingFormat given).map (fun format =>
        .inspect (inspectSettings given) format (nonEmpty? (given.value? "output"))))
  else if name = ("version" : Text) then
    readWith [helpForm] arguments (fun _ => .ok .version)
  else .error (.unknownCommand name)

end Command

namespace Request

/-- The first of the options that answer at once. -/
def early? (arguments : Arguments) : Option Request :=
  arguments.options.findSome? (fun option =>
    if option.name = ("version" : Text) then some .showVersion
    else if option.name = ("help" : Text) then some .showHelp
    else none)

/-- What a line asks for that does not begin with a command. An option may still answer
at once, although two dashes came before it. -/
def withoutCommand (name : Text) (line : List Text) : Except UsageFault Request := do
  match early? (← Arguments.read Command.sharedForms false line) with
  | some request => pure request
  | none => throw (.unknownCommand name)

/-- What a command line asks for. -/
def ofArguments (line : List Text) : Except UsageFault Request := do
  let arguments ← Arguments.read Command.sharedForms false line
  match early? arguments with
  | some request => pure request
  | none =>
    match arguments.others with
    | [] => .error .missingCommand
    | name :: rest =>
      match Command.read name rest with
      | .ok none => pure .showHelp
      | .ok (some command) => pure (.run (arguments.has "verbose") command)
      | .error (.unknownCommand name) => withoutCommand name (name :: rest)
      | .error fault => throw fault

/-- The least level of events that is told once a line has been read: a known command sets
it, whether or not its own arguments can be read. -/
def levelAfter? (line : List Text) : Option LogLevel :=
  match Arguments.read Command.sharedForms false line with
  | .error _ => none
  | .ok arguments =>
    let known := (arguments.others.take 1).any (fun name => Command.names.contains name)
    if (early? arguments).isNone && known then
      some (if arguments.has "verbose" then .debug else .warning)
    else none

end Request

end SchemaForge

import SchemaForge.Workspace
import SchemaForge.Yaml.Document

/-!
# Configuration

The settings of a run. A configuration file is a mapping of settings, each of
which may be left out; relative paths in it are seen from the directory of the
file. Everything wrong with a file is reported as a configuration problem, except
a file that is not UTF-8, a value that does not exist, a number that is too long to
be written, and keys that have no common order.
-/

namespace SchemaForge

/-- The settings of a run. -/
structure Config where
  /-- Where the schemas to generate are. -/
  sourceDirectory : Path := Path.ofText "schema"
  /-- The root of the generated packages. -/
  outputDirectory : Path := Path.ofText "generated"
  /-- The package of types that name none. -/
  defaultPackage : Text := "apigen_generated"
  /-- The name of the bindings module, if one is wanted. -/
  injectionModule : Option Text := none
  /-- The roots of dependencies whose schemas are known. -/
  referencePaths : List Path := []
  /-- Where the schemas are handed on, if they are. -/
  publishDirectory : Option Path := none
deriving DecidableEq

/-- Settings that replace others where they are given. -/
structure ConfigOverrides where
  /-- Where the schemas to generate are. -/
  sourceDirectory : Option Path := none
  /-- The root of the generated packages. -/
  outputDirectory : Option Path := none
  /-- The package of types that name none. -/
  defaultPackage : Option Text := none
  /-- The name of the bindings module. -/
  injectionModule : Option Text := none
  /-- The roots of dependencies whose schemas are known. -/
  referencePaths : Option (List Path) := none
  /-- Where the schemas are handed on. -/
  publishDirectory : Option Path := none
deriving DecidableEq

namespace Config

/-- The names of the settings. -/
def settingNames : List Text :=
  ["source_directory", "output_directory", "default_namespace", "injection_module",
    "reference_paths", "publish_directory"]

/-- The settings with every given override in place. -/
def withOverrides (config : Config) (overrides : ConfigOverrides) : Config :=
  { sourceDirectory := overrides.sourceDirectory.getD config.sourceDirectory,
    outputDirectory := overrides.outputDirectory.getD config.outputDirectory,
    defaultPackage := overrides.defaultPackage.getD config.defaultPackage,
    injectionModule := overrides.injectionModule <|> config.injectionModule,
    referencePaths := overrides.referencePaths.getD config.referencePaths,
    publishDirectory := overrides.publishDirectory <|> config.publishDirectory }

/-- Refuses the first name that is no setting. -/
def checkSettings : List Text → Except Failure Unit
  | [] => .ok ()
  | name :: names =>
    if settingNames.contains name then checkSettings names else .error (.unknownSetting name)

/-- Why a configuration cannot be used. -/
inductive Fault where
  /-- The file cannot be read. -/
  | unreadable (path reason : Text)
  /-- The file is no document. -/
  | notYaml (path flaw : Text)
  /-- The document is no mapping. -/
  | notMapping (path : Text)
  /-- The mapping has keys that are no settings. -/
  | unknownKeys (path : Text) (keys : List Text)
  /-- A setting is not a text, or an empty one. -/
  | notText (setting got : Text)
  /-- The reference paths are not a list of texts. -/
  | notPaths

/-- The wording of a fault. -/
def Fault.message : Fault → Text
  | unreadable path reason => Text.concat ["Cannot read configuration ", path, ": ", reason]
  | notYaml path flaw => Text.concat ["Invalid YAML in ", path, ": ", flaw]
  | notMapping path => Text.concat ["Configuration ", path, " must be a mapping"]
  | unknownKeys path keys =>
    Text.concat ["Unknown configuration key(s) in ", path, ": ", Text.join ", " keys]
  | notText setting got =>
    Text.concat [Text.quoted setting, " must be a non-empty string, got ", got]
  | notPaths => "'reference_paths' must be a list of paths"

/-- A fault as a failure. -/
def Fault.failure (fault : Fault) : Failure := .problem (.configuration fault.message)

/-- The text of a setting, if it is given. It must not be empty. -/
def textSetting (pairs : List (Data × Data)) (setting : Text) :
    Except Failure (Option Text) := do
  let refuse (value : Data) : Except Failure (Option Text) := do
    let got ← value.written.mapError Failure.numeral
    .error (Fault.notText setting got).failure
  match Data.lookup? pairs setting with
  | none | some .null => pure none
  | some (.text []) => refuse (.text [])
  | some (.text value) => pure (some value)
  | some other => refuse other

/-- The path of a setting below a base, if it is given. -/
def pathSetting (base : Path) (pairs : List (Data × Data)) (setting : Text) :
    Except Failure (Option Path) := do
  let value ← textSetting pairs setting
  pure (value.map base.join)

/-- The texts of a list, if it holds nothing else. -/
def texts? : List Data → Option (List Text)
  | [] => some []
  | .text value :: items => (texts? items).map (value :: ·)
  | _ :: _ => none

/-- The reference paths below a base, if they are given. -/
def referenceSetting (base : Path) (pairs : List (Data × Data)) :
    Except Failure (Option (List Path)) :=
  match Data.lookup? pairs "reference_paths" with
  | none | some .null => .ok none
  | some (.list items) =>
    match texts? items with
    | some texts => .ok (some (texts.map base.join))
    | none => .error Fault.notPaths.failure
  | some _ => .error Fault.notPaths.failure

/-- The settings that a mapping gives, with paths below a base. The settings are looked
at in a fixed order, and the first fault counts. -/
def ofPairs (pairs : List (Data × Data)) (base : Path) : Except Failure Config := do
  let sourceDirectory ← pathSetting base pairs "source_directory"
  let outputDirectory ← pathSetting base pairs "output_directory"
  let publishDirectory ← pathSetting base pairs "publish_directory"
  let defaultPackage ← textSetting pairs "default_namespace"
  let injectionModule ← textSetting pairs "injection_module"
  let referencePaths ← referenceSetting base pairs
  pure (({} : Config).withOverrides
    ⟨sourceDirectory, outputDirectory, defaultPackage, injectionModule, referencePaths,
      publishDirectory⟩)

/-- Whether a key names a setting. -/
def isSetting : Data → Bool
  | .text name => settingNames.contains name
  | _ => false

/-- The keys that are no settings, in order. -/
def unknownKeys (pairs : List (Data × Data)) : Except Failure (List Text) := do
  let unknown := (pairs.map Prod.fst).filter (fun key => !isSetting key)
  let sorted ← (Data.sortKeys (Data.listedMembers unknown)).mapError Failure.order
  (sorted.mapM Data.plain).mapError Failure.numeral

/-- The settings of a document. -/
def ofDocument (path : Path) (document : Data) : Except Failure Config :=
  let ofMapping (pairs : List (Data × Data)) : Except Failure Config := do
    match ← unknownKeys pairs with
    | [] => ofPairs pairs path.parent
    | keys => .error (Fault.unknownKeys path.display keys).failure
  match document with
  | .null => ofMapping []
  | .mapping pairs => ofMapping pairs
  | _ => .error (Fault.notMapping path.display).failure

/-- The settings of a configuration file. The document of its text is read by the given
reader, which may find a text that is no document or a value that does not exist. -/
def load (reader : Text → Except Yaml.Fault Data) (tree : FileTree) (path : Path) :
    Except Failure Config :=
  match tree.readText path with
  | .error reason =>
    if reason.isRefusal then
      .error (Fault.unreadable path.display reason.message).failure
    else .error (.file reason)
  | .ok text =>
    match reader text with
    | .error (.malformed flaw) => .error (Fault.notYaml path.display (flaw.describe text)).failure
    | .error fault => .error (.yaml fault)
    | .ok document => ofDocument path document

end Config

end SchemaForge

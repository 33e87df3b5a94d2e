import SchemaForge.Config
import SchemaForge.File.SchemaFile
import SchemaForge.Generation

/-!
# Sessions

A session collects schemas, one after another, and then generates modules for
them. A schema that cannot be read or parsed leaves the registry as it was and
adds diagnostics; the findings of a generation come after those of loading.

`run` does what a configuration says: it loads the schemas that others hand on and
those of the source directory, generates, and hands its own schemas on.
-/

namespace SchemaForge

/-- The schemas collected so far. -/
structure Session where
  /-- The types of the schemas. -/
  registry : Registry
  /-- The name of the bindings module, if one is wanted. -/
  injectionModule : Option Text := none
  /-- The findings of loading, in order. -/
  diagnostics : List Diagnostic := []

namespace Session

/-- A session without schemas. -/
def start (defaultPackage : Text) (injectionModule : Option Text) : Session :=
  { registry := { defaultPackage := defaultPackage }, injectionModule := injectionModule }

/-- Adds a schema text. The answer says whether the text was a schema; a frozen registry
takes none. -/
def add (session : Session) (origin : Origin) (source text : Text) :
    Logged (Except Problem (Session × Bool)) :=
  match parseDocument text with
  | .error error =>
    let found := Problem.diagnosticsOfDocument (some source) error
    ⟨.ok ({ session with diagnostics := session.diagnostics ++ found }, false), []⟩
  | .ok definitions =>
    let added := session.registry.addBatch origin source definitions
    match added.value with
    | .error problem => ⟨.error problem, added.log⟩
    | .ok (registry, _) =>
      ⟨.ok ({ session with registry := registry }, true),
        added.log ++ [.loaded definitions.length source origin]⟩

/-- Adds a schema text, in a workspace. -/
def addText (session : Session) (origin : Origin) (source text : Text) :
    Action (Session × Bool) := do
  match ← Action.logged (session.add origin source text) with
  | .ok answer => pure answer
  | .error problem => Action.fail (.problem problem)

/-- Adds a schema file. A file that cannot be read adds a diagnostic. -/
def addFile (session : Session) (origin : Origin) (file : SchemaFile) :
    Action (Session × Bool) := do
  match file.read (← Action.tree) with
  | .ok text => session.addText origin file.locator text
  | .error fault =>
    if fault.isRefusal then
      let found := SchemaFile.unreadable file.locator fault.message
      pure ({ session with diagnostics := session.diagnostics ++ [found] }, false)
    else Action.fail (.file fault)

/-- Adds schema files one after another, whether or not each is a schema. -/
def addFiles (session : Session) (origin : Origin) (files : List SchemaFile) : Action Session :=
  files.foldlM (fun session file => do
    let (session, _) ← session.addFile origin file
    pure session) session

/-- Loads the schemas that a configuration names: first those that dependencies hand
on, then those of the source directory. Without a source directory nothing is loaded,
and the answer says so. -/
def load (session : Session) (config : Config) : Action (Session × Bool) := do
  if ← Action.asks (fun tree => tree.isDirectory config.sourceDirectory) then
    let references ← SchemaFile.findPublished (config.referencePaths.map Path.display)
    let session ← session.addFiles .reference references
    let sources ← SchemaFile.find config.sourceDirectory
    let session ← session.addFiles .generation sources
    pure (session, true)
  else
    Action.tell (.noSources config.sourceDirectory.display)
    pure (session, false)

/-- The session with its registry frozen. -/
def freeze (session : Session) : Session :=
  { session with registry := session.registry.freeze }

/-- The findings of loading: those of the texts, then those of the registry. -/
def findings (session : Session) : List Diagnostic :=
  session.diagnostics ++ session.registry.problems.map Problem.diagnostic

/-- Freezes the registry and generates its modules. The findings of loading come first. -/
def generate {σ : Type} (session : Session) (sink : Option (Sink σ)) (sinkState : σ) :
    Generated σ :=
  let generated := session.freeze.registry.generate session.injectionModule sink sinkState
  { generated with
    outcome := generated.outcome.map (fun result =>
      { result with diagnostics := session.findings ++ result.diagnostics }) }

/-- Generates with a sink that has nothing to do with files. -/
def generateWith {σ : Type} (session : Session) (sink : Option (Sink σ)) (sinkState : σ) :
    Action (σ × GenerationResult) := do
  let generated := session.generate sink sinkState
  Action.tellAll generated.log
  match generated.outcome with
  | .ok result => pure (generated.sinkState, result)
  | .error failure => Action.fail failure

/-- Generates into files below a root. The paths written before are given. -/
def generateFiles (session : Session) (root : Path) (written : List Path) :
    Action (List Path × GenerationResult) := do
  let tree ← Action.tree
  let generated := session.generate (some fileSink) ⟨root, tree, written⟩
  modify (fun workspace => { workspace with tree := generated.sinkState.tree })
  Action.tellAll generated.log
  match generated.outcome with
  | .ok result => pure (generated.sinkState.written, result)
  | .error failure => Action.fail failure

end Session

/-- Hands schemas on, if the configuration says where. -/
def publishFor (config : Config) : Action Unit := do
  match config.publishDirectory with
  | none => pure ()
  | some root =>
    let published ← SchemaFile.publish config.sourceDirectory root
    Action.tell (.publishedAll published.length root.display)

/-- Does what a configuration says, with a generation of the caller's choice. Without a
source directory nothing is generated: the result is `nothing`. -/
def runWith {α : Type} (config : Config) (nothing : α) (generation : Session → Action α) :
    Action α := do
  let session := Session.start config.defaultPackage config.injectionModule
  let (session, loaded) ← session.load config
  if loaded then
    let result ← generation session
    publishFor config
    pure result
  else
    Action.tell .skippedGeneration
    pure nothing

/-- Does what a configuration says and writes modules to the given root; the answer
lists the files written. -/
def runToFiles (config : Config) (root : Path) : Action (List Path × GenerationResult) :=
  runWith config ([], {}) (fun session => session.generateFiles root [])

/-- Does what a configuration says. -/
def run (config : Config) : Action GenerationResult := do
  let (_, result) ← runToFiles config config.outputDirectory
  pure result

/-- Adds texts one after another, each with its name, and says what was told. A text that
is no schema is one of the findings. -/
def Session.addTexts (session : Session) (origin : Origin) (texts : List (Text × Text)) :
    Logged Session :=
  match texts with
  | [] => ⟨session, []⟩
  | (source, text) :: others =>
    let added := session.add origin source text
    let next :=
      match added.value with
      | .ok (session, _) => session
      | .error _ => session
    let rest := next.addTexts origin others
    ⟨rest.value, added.log ++ rest.log⟩

/-- Generates modules for texts in memory: first the texts known only by reference, then
the texts to generate, each with its name. -/
def generateTexts {σ : Type} (references schemas : List (Text × Text)) (defaultPackage : Text)
    (injectionModule : Option Text) (sink : Option (Sink σ)) (sinkState : σ) : Generated σ :=
  let known := (Session.start defaultPackage injectionModule).addTexts .reference references
  let loaded := known.value.addTexts .generation schemas
  let generated := loaded.value.generate sink sinkState
  { generated with log := known.log ++ loaded.log ++ generated.log }

end SchemaForge

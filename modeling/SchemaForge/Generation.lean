import SchemaForge.Module.Bindings
import SchemaForge.Module.Render
import SchemaForge.Registry.Basic
import SchemaForge.Sink

/-!
# Generation

Generation goes through the entries to generate, by package and name, and gives
each exactly one outcome: unknown types it mentions, a text that cannot be
rendered, a module that an earlier type has taken, a refusal of the sink, or an
artifact. After the entries comes the bindings module, if one is wanted and any
artifact declares a contract. No outcome of one entry stops the next, unless the
sink fails in a way that is no refusal.
-/

namespace SchemaForge

/-- The width of indentation in generated modules. -/
def indentWidth : Nat := 4

/-- The module of a package that a type has taken, with where that type came from. -/
structure TakenModule where
  /-- The package and the module. -/
  module : Text × Text
  /-- The type that has it. -/
  typeName : Text
  /-- Where that type came from. -/
  location : Text
deriving DecidableEq, Inhabited

/-- The state of a generation that is going on. -/
structure Generation (σ : Type) where
  /-- The state of the sink. -/
  sinkState : σ
  /-- The modules taken so far. -/
  taken : List TakenModule := []
  /-- The artifacts and findings so far. -/
  result : GenerationResult := {}
  /-- The events so far. -/
  log : List LogEvent := []

/-- A step of a generation. It keeps its state when the sink fails for good. -/
abbrev GenerationStep (σ α : Type) := ExceptT FileFault (StateM (Generation σ)) α

namespace Generation

variable {σ : Type}

/-- Notes findings. -/
def report (diagnostics : List Diagnostic) : GenerationStep σ Unit :=
  modify (fun state =>
    { state with
      result :=
        { state.result with diagnostics := state.result.diagnostics ++ diagnostics } })

/-- Tells an event. -/
def tell (event : LogEvent) : GenerationStep σ Unit :=
  modify (fun state => { state with log := state.log ++ [event] })

/-- The types that a definition mentions and that need a module: neither builtin nor
the defined type itself. -/
def neededNames (entry : Entry) : List Text :=
  entry.definition.referencedNames.filter (fun name =>
    !isBuiltinScalar name && !decide (name = entry.name))

/-- The needed types that the registry does not know. -/
def missingNames (registry : Registry) (entry : Entry) : List Text :=
  (neededNames entry).filter (fun name => (registry.find? name).isNone)

/-- The edges to the needed types that the registry knows. -/
def dependencies (registry : Registry) (entry : Entry) : List Dependency :=
  (neededNames entry).filterMap (fun name => (registry.find? name).map Dependency.ofEntry)

/-- The finding about an entry that cannot be rendered. -/
def renderDiagnostic (entry : Entry) (fault : RenderFault) : Diagnostic :=
  { severity := .error, code := "APG999",
    message :=
      Text.concat ["Could not render ", Text.quoted entry.name, ": ", fault.message],
    location := entry.location, rule := "python" }

/-- The finding about an artifact that a sink refuses. -/
def writeDiagnostic (rule : Text) (artifact : Artifact) (fault : FileFault) : Diagnostic :=
  { severity := .error, code := "APG006",
    message := Text.concat ["Could not write ", artifact.qualifiedName, ": ", fault.message],
    location := artifact.relativePath, rule := rule }

/-- The artifact of an entry, unless a type it mentions is unknown or it cannot be
rendered; then the findings are noted. -/
def artifactOf (registry : Registry) (entry : Entry) : GenerationStep σ (Option Artifact) := do
  let missing := missingNames registry entry
  if missing.isEmpty then
    let edges := dependencies registry entry
    let contracts := Contracts.ofEntry entry
    match Render.moduleText indentWidth entry edges contracts with
    | .error fault =>
      report [renderDiagnostic entry fault]
      pure none
    | .ok text =>
      tell (.generated entry.package entry.name edges.length)
      pure (some
        { package := entry.package, typeName := entry.name, text := text,
          dependencies := edges, contracts := contracts,
          computedFields := entry.definition.computedFields.map Field.name })
  else
    report (missing.map (fun name =>
      (Problem.unresolvedReference entry.name name entry.location).diagnostic))
    tell (.notGenerated entry.name)
    pure none

/-- Takes the module of an artifact. The first type that takes it keeps it. -/
def takeModule (artifact : Artifact) (location : Text) : GenerationStep σ Bool := do
  let module := (artifact.package, artifact.moduleName)
  match (← get).taken.find? (fun held => decide (held.module = module)) with
  | none =>
    modify (fun state =>
      { state with taken := state.taken ++ [⟨module, artifact.typeName, location⟩] })
    pure true
  | some kept =>
    let problem :=
      Problem.moduleClash artifact.qualifiedName kept.typeName kept.location artifact.typeName
        location
    tell (.clashed problem.detail)
    report [problem.diagnostic]
    pure false

/-- Hands an artifact to the sink, if there is one, and says whether it was taken. -/
def deliver (sink : Option (Sink σ)) (artifact : Artifact) : GenerationStep σ Bool := do
  match sink with
  | none => pure true
  | some sink =>
    let state ← get
    let delivery := sink.write state.sinkState artifact.package artifact.typeName artifact.text
    set { state with sinkState := delivery.state, log := state.log ++ delivery.log }
    match delivery.outcome with
    | .ok () => pure true
    | .error fault =>
      if fault.isRefusal then
        report [writeDiagnostic sink.rule artifact fault]
        pure false
      else throw fault

/-- Takes the module of an artifact, hands it to the sink and lists it. -/
def emit (sink : Option (Sink σ)) (artifact : Artifact) (location : Text) :
    GenerationStep σ Unit := do
  if ← takeModule artifact location then
    if ← deliver sink artifact then
      modify (fun state =>
        { state with
          result := { state.result with artifacts := state.result.artifacts ++ [artifact] } })

/-- Generates one entry. -/
def generateEntry (registry : Registry) (sink : Option (Sink σ)) (entry : Entry) :
    GenerationStep σ Unit := do
  match ← artifactOf registry entry with
  | none => pure ()
  | some artifact => emit sink artifact entry.location

/-- The package and the name behind the last dot of a dotted name. -/
def splitQualified (qualified : Text) : Text × Text :=
  let parts := Text.splitOn ('.' : Char) qualified
  (Text.join "." parts.dropLast, parts.getLastD [])

/-- The bindings module for some artifacts, if any of them declares a contract. An
empty name asks for no module, and a name without a package takes the default. -/
def bindingsArtifact? (defaultPackage : Text) (injectionModule : Option Text)
    (artifacts : List Artifact) : Option Artifact :=
  match injectionModule with
  | none | some [] => none
  | some qualified =>
    let declaring := artifacts.filter (fun artifact => artifact.contracts.any)
    if declaring.isEmpty then none
    else
      let (package, name) := splitQualified qualified
      some
        { package := if package.isEmpty then defaultPackage else package,
          typeName := name,
          text := Bindings.moduleText indentWidth qualified declaring }

/-- Generates the bindings module, if one is wanted. -/
def generateBindings (registry : Registry) (injectionModule : Option Text)
    (sink : Option (Sink σ)) : GenerationStep σ Unit := do
  match bindingsArtifact? registry.defaultPackage injectionModule
      (← get).result.artifacts with
  | none => pure ()
  | some artifact =>
    emit sink artifact ("injection module " ++ injectionModule.getD [])

/-- Generates every entry and the bindings module. -/
def generateAll (registry : Registry) (injectionModule : Option Text)
    (sink : Option (Sink σ)) : GenerationStep σ Unit := do
  (registry.entriesOf .generation).forM (generateEntry registry sink)
  generateBindings registry injectionModule sink
  tell (.finished (← get).result.summary)

end Generation

/-- What came of a generation: the sink afterwards, the events, and the result unless
the generation failed. -/
structure Generated (σ : Type) where
  /-- The sink afterwards. -/
  sinkState : σ
  /-- The events in order. -/
  log : List LogEvent
  /-- The result. -/
  outcome : Except Failure GenerationResult

/-- Generates the modules of a frozen registry. -/
def Registry.generate {σ : Type} (registry : Registry) (injectionModule : Option Text)
    (sink : Option (Sink σ)) (sinkState : σ) : Generated σ :=
  if registry.frozen then
    let (outcome, final) :=
      StateT.run (Generation.generateAll registry injectionModule sink).run
        { sinkState := sinkState }
    match outcome with
    | .ok () => ⟨final.sinkState, final.log, .ok final.result⟩
    | .error fault => ⟨final.sinkState, final.log, .error (.file fault)⟩
  else
    ⟨sinkState, [],
      .error (.problem (.registryState
        "Type registry must be frozen before generating code"))⟩

/-- The names of the rendering targets, sorted. -/
def renderingTargets : List Text := ["python"]

/-- Refuses a rendering target that does not exist. -/
def checkTarget (name : Text) : Except Failure Unit :=
  if renderingTargets.contains name then .ok () else .error (.unknownTarget name)

end SchemaForge

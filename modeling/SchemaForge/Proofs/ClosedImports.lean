import SchemaForge.Proofs.ModuleReading

/-!
# Imports lead to modules that bind what is imported

The edges of a module end at other modules of the run, and the line of an edge names the module it
ends at. Whether that module binds the name that is imported, and whether the line is an import at
all, is for a reader of the two texts to tell. It is so for types whose modules can be read; where
a description is left with one quote, the module of its type is none, and the import leads
nowhere.
-/

namespace SchemaForge

open LogicalLine ModuleSyntax Generation

/-- What a registry knows under a name has a module that can be read. -/
def Registry.Reads (registry : Registry) (name : Text) : Prop :=
  ∀ entry, registry.find? name = some entry → entry.Readable registry

/-- The text of an artifact is a module, and what it imports for type checking are its edges. -/
def Artifact.ChecksEdges (artifact : Artifact) : Prop :=
  ∃ lines, LogicalLine.ofText artifact.text = some lines ∧ IsModule lines ∧
    checkedLines lines = artifact.dependencies.map Layout.importOf

namespace Generation

variable {registry : Registry} {entry : Entry} {text : Text}

/-- The module of a readable entry imports its edges. -/
theorem checksEdges (spelled : SyntaxNode.Spelled (.definition entry.definition))
    (readable : entry.Readable registry) (rendered : textOf registry entry = .ok text) :
    (artifactFor registry entry text).ChecksEdges := by
  obtain ⟨lead, code, reads, module⟩ := reads_module spelled readable rendered
  have defines := ((textOf_isOk registry entry).mp ⟨text, rendered⟩).1
  exact ⟨_, reads, module, checkedLines_eq spelled readable defines code⟩

end Generation

/-- The import graph of a run that succeeds is closed, whatever sink it writes to. The edges of a
module lead to different types and never to its own, and their lines stand under their condition,
one for each. An edge to a type that is generated ends at one module: one artifact has the name
and the path of the edge, and the line of the edge imports the name of the type from that module.
If the importing module can be read, the edges are what it imports for type checking, and nothing
else; if the imported module can be read, it binds the name. -/
theorem generateTexts_importsClosed {σ : Type} (references schemas : List (Text × Text))
    (defaultPackage : Text) (injectionModule : Option Text) (sink : Option (Sink σ)) (start : σ)
    (result : GenerationResult)
    (outcome : (generateTexts references schemas defaultPackage injectionModule sink
      start).outcome = .ok result) (success : result.success = true) :
    ∀ artifact ∈ result.artifacts,
      (artifact.dependencies.map Dependency.typeName).Nodup ∧
      artifact.typeName ∉ artifact.dependencies.map Dependency.typeName ∧
      (artifact.dependencies ≠ [] →
        (∃ front definitions, artifact.text = Text.concat [front, "\n\nif TYPE_CHECKING:\n",
          Text.join [.lineFeed] (artifact.dependencies.map Layout.importLine), "\n\n\n",
          definitions, "\n"]) ∧
        ((loadedRegistry references schemas defaultPackage).freeze.Reads artifact.typeName →
          artifact.ChecksEdges)) ∧
      ∀ dependency ∈ artifact.dependencies, dependency.origin = .generation →
        ∃ imported : Artifact,
          result.artifacts.filter (fun other => decide (dependency.EndsAt other)) = [imported] ∧
          Layout.importLine dependency =
            Text.concat ["    from ", imported.qualifiedName, " import ",
              ModuleName.identifier imported.typeName] ∧
          ((loadedRegistry references schemas defaultPackage).freeze.Reads dependency.typeName →
            ModuleBinds (ModuleName.identifier dependency.typeName) imported.text) := by
  obtain ⟨outcomes, middle, extra, after, run, bindings, silent, artifacts⟩ :=
    generateTexts_succeeds outcome success
  have distinct := (loadedRegistry_loads references schemas defaultPackage).stillOpen.distinct
  have spelled : ∀ entry ∈ (loadedRegistry references schemas defaultPackage).entries,
      SyntaxNode.Spelled (.definition entry.definition) := loadedRegistry_spelled
  intro artifact member
  rw [artifacts] at member ⊢
  obtain member | member := List.mem_append.mp member
  · obtain ⟨entry, listed, text, rendered, rfl⟩ := (run.mem_artifacts silent).mp member
    refine ⟨dependencies_distinct _ entry, dependencies_foreign _ entry, fun some =>
      ⟨Render.moduleText_edges rendered some, fun reads => ?_⟩, ?_⟩
    · have held := (List.mem_filter.mp ((Registry.entriesOf_perm _ _).mem_iff.mp listed)).1
      have found := (Registry.mem_entries_iff distinct).mp held
      exact checksEdges (spelled entry held) (reads entry found) rendered
    · intro dependency edge generated
      obtain ⟨target, text, found, rfl, rendered, one⟩ :=
        run.edge_target bindings silent distinct edge generated
      refine ⟨_, one, rfl, fun reads => ?_⟩
      exact moduleBinds (spelled target (name_of_find? found).1) (reads target found) rendered
  · obtain ⟨leaf, -⟩ := bindings.of_mem member
    rw [leaf]
    simp

/-- Two types that mention each other. One is named like a reserved word. -/
def ringSchemas : List (Text × Text) :=
  [("ring.graphql", "type Node @java(package: \"graph\") { of: class } type class { next: Node }")]

/-- The lines by which the modules of the two types import each other. -/
def ringImports : List (List Text) :=
  [["    from ns.class_ import class_"], ["    from graph.node import Node"]]

/-- The modules of the two types can be read. -/
theorem ringSchemas_read (name : Text) :
    (loadedRegistry [] ringSchemas "ns").freeze.Reads name := by
  have modules : ∀ path ∈ [("ns.class_" : Text), "graph.node"], IsModulePath path := by
    have within (package module : Text) (first : IsIdentifier package)
        (second : IsIdentifier module) : IsModulePath (Text.concat [package, ".", module]) := by
      have names : ∀ name ∈ [package, module], IsIdentifier name :=
        List.forall_mem_cons.mpr ⟨first, List.forall_mem_singleton.mpr second⟩
      refine ⟨0, _, ⟨[package, module], List.cons_ne_nil _ _, names, rfl⟩, ?_⟩
      simp [Text.concat, Text.join]
    refine List.forall_mem_cons.mpr ⟨within "ns" "class_" ?_ ?_, List.forall_mem_singleton.mpr
      (within "graph" "node" ?_ ?_)⟩
    all_goals decide +kernel
  have facts : ∀ entry ∈ (loadedRegistry [] ringSchemas "ns").entries,
      entry.source.InComment ∧ entry.definition.Readable ∧
      ∀ dependency ∈ dependencies (loadedRegistry [] ringSchemas "ns").freeze entry,
        dependency.importPath ∈ [("ns.class_" : Text), "graph.node"] ∧
          CanBind (ModuleName.identifier dependency.typeName) := by
    decide +kernel
  intro entry found
  obtain ⟨source, definition, edges⟩ := facts entry (name_of_find? found).1
  exact ⟨source, definition, fun dependency member => modules _ (edges dependency member).1,
    fun dependency member => (edges dependency member).2⟩

/-- The modules of the two types import each other, under the name that is free to use. -/
theorem generateTexts_importsClosed_ring :
    ∃ result : GenerationResult,
      (generateTexts [] ringSchemas "ns" none (some memorySink) {}).outcome = .ok result ∧
      result.success = true ∧
      result.artifacts.map (fun artifact => artifact.dependencies.map Layout.importLine) =
        ringImports ∧
      ∀ artifact ∈ result.artifacts,
        (artifact.dependencies ≠ [] → artifact.ChecksEdges) ∧
        ∀ dependency ∈ artifact.dependencies, dependency.origin = .generation →
          ∃ imported : Artifact,
            result.artifacts.filter (fun other => decide (dependency.EndsAt other)) =
              [imported] ∧
            ModuleBinds (ModuleName.identifier dependency.typeName) imported.text := by
  have listed : (loadedRegistry [] ringSchemas "ns").freeze.entriesOf .generation =
      (loadedRegistry [] ringSchemas "ns").entries :=
    Registry.entriesOf_eq_entries _ _ (by decide +kernel) (by decide +kernel)
  have facts : (generateTexts [] ringSchemas "ns" none (some memorySink) {}).outcome.toOption.map
      (fun result => (result.success,
        result.artifacts.map (fun artifact => artifact.dependencies.map Layout.importLine))) =
      some (true, ringImports) := by
    rw [generateTexts_outcome]
    unfold Registry.generate generateAll
    rw [listed]
    decide +kernel
  cases outcome : (generateTexts [] ringSchemas "ns" none (some memorySink) {}).outcome with
  | error failure =>
    rw [outcome] at facts
    cases facts
  | ok result =>
    rw [outcome] at facts
    obtain ⟨success, imports⟩ := Prod.mk.inj (Option.some.inj facts)
    refine ⟨result, rfl, success, imports, ?_⟩
    intro artifact member
    obtain ⟨-, -, checked, targets⟩ := generateTexts_importsClosed [] ringSchemas "ns" none
      (some memorySink) {} result outcome success artifact member
    refine ⟨fun some => (checked some).2 (ringSchemas_read _), ?_⟩
    intro dependency edge generated
    obtain ⟨imported, one, -, binds⟩ := targets dependency edge generated
    exact ⟨imported, one, binds (ringSchemas_read _)⟩

/-- A type that mentions another one, whose description ends with a quote. -/
def quotingSchemas : List (Text × Text) :=
  [("s.graphql", "\"say \\\"hi\\\"\" type Said { a: Int } type Saying { said: Said }")]

/-- The run succeeds, and the module that is imported is none: its docstring ends a quote early,
and the quote that is left opens a literal that its line does not end. -/
theorem generateTexts_importsNothing :
    ∃ result : GenerationResult,
      (generateTexts [] quotingSchemas "ns" none (some memorySink) {}).outcome = .ok result ∧
      result.success = true ∧
      ∃ artifact ∈ result.artifacts, ∃ dependency ∈ artifact.dependencies,
        dependency.origin = .generation ∧
        ∀ imported ∈ result.artifacts, dependency.EndsAt imported →
          LogicalLine.ofText imported.text = none ∧
            ¬ ModuleBinds (ModuleName.identifier dependency.typeName) imported.text := by
  have listed : (loadedRegistry [] quotingSchemas "ns").freeze.entriesOf .generation =
      (loadedRegistry [] quotingSchemas "ns").entries :=
    Registry.entriesOf_eq_entries _ _ (by decide +kernel) (by decide +kernel)
  have facts : ∃ result ∈ (generateTexts [] quotingSchemas "ns" none (some memorySink)
        {}).outcome.toOption, result.success = true ∧
      ∃ artifact ∈ result.artifacts, ∃ dependency ∈ artifact.dependencies,
        dependency.origin = .generation ∧
        ∀ imported ∈ result.artifacts, dependency.EndsAt imported →
          LogicalLine.ofText imported.text = none := by
    rw [generateTexts_outcome]
    unfold Registry.generate generateAll
    rw [listed]
    decide +kernel
  obtain ⟨result, returned, success, artifact, member, dependency, edge, generated, unread⟩ := facts
  refine ⟨result, outcome_of_toOption returned, success, artifact, member, dependency, edge,
    generated, ?_⟩
  intro imported listed ends
  refine ⟨unread imported listed ends, ?_⟩
  rintro ⟨lines, reads, -⟩
  rw [unread imported listed ends] at reads
  cases reads

end SchemaForge

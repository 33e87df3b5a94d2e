import SchemaForge.Proofs.ModuleReading

/-!
# Contracts that modules declare

The bindings module lists contracts by what the artifacts of a run say about themselves, and a
module declares them as classes under a class of the runtime. Both come from the definition of the
entry: the statements of its module that declare contracts are exactly what is listed, in the same
order. That a reader of the module meets these classes asks for a module that can be read; where a
description is left with one quote, a module is listed that declares nothing.
-/

namespace SchemaForge

open LogicalLine ModuleSyntax Generation

/-! ## Statements -/

namespace Definition

variable (definition : Definition)

/-- The statement for batch lookup is there if instances can be looked up. -/
theorem statements_lookup :
    definition.statements.filterMap (Statement.contract? "Resolver") =
      if definition.hasIdentityField then [ModuleName.batchResolver definition.typeName]
      else [] := by
  cases definition with
  | object type =>
    have computations : (type.computed.map type.computationClass).filterMap
        (Statement.contract? "Resolver") = [] := by
      rw [List.filterMap_map]
      exact List.filterMap_eq_nil_iff.mpr (fun field _ => rfl)
    have record : Statement.contract? "Resolver" type.recordClass = none := rfl
    rw [statements, List.filterMap_cons_none record, List.filterMap_append, computations,
      List.append_nil]
    split <;> rfl
  | inputObject _ | interface _ | union _ | enum _ | scalar _ | directive _ | schema _ => rfl

/-- There is a statement for each computed field, in their order. -/
theorem statements_computations :
    definition.statements.filterMap (Statement.contract? "FieldResolver") =
      definition.computedFields.map
        (fun field => ModuleName.fieldResolver definition.typeName field.name) := by
  cases definition with
  | object type =>
    have lookup (identity : Bool) : (if identity = true then [type.lookupClass] else []).filterMap
        (Statement.contract? "FieldResolver") = [] := by
      cases identity <;> rfl
    have record : Statement.contract? "FieldResolver" type.recordClass = none := rfl
    rw [statements, List.filterMap_cons_none record, List.filterMap_append, lookup,
      List.nil_append, List.filterMap_map, ← List.filterMap_eq_map]
    exact List.filterMap_congr (fun field _ => rfl)
  | inputObject _ | interface _ | union _ | enum _ | scalar _ | directive _ | schema _ => rfl

end Definition

/-! ## Artifacts -/

/-- The text of an artifact is a module, and the classes that it declares under the classes of the
runtime are those that are listed for the artifact. -/
def Artifact.DeclaresContracts (artifact : Artifact) : Prop :=
  ∃ lines, LogicalLine.ofText artifact.text = some lines ∧ IsModule lines ∧
    contractClasses "Resolver" lines = artifact.batchClasses.map ListedClass.name ∧
    contractClasses "FieldResolver" lines = artifact.fieldClasses.map ListedClass.name

/-- The artifact of an entry, which lists what its module has statements for. -/
structure ListsStatements (registry : Registry) (entry : Entry) (artifact : Artifact) : Prop where
  /-- The module is made of the statements of the entry. -/
  outlined : Outlined registry entry artifact
  /-- The class for batch lookup is listed if there is a statement for it. -/
  batch : entry.definition.statements.filterMap (Statement.contract? "Resolver") =
    artifact.batchClasses.map ListedClass.name
  /-- The classes of computed fields are listed if there are statements for them. -/
  fields : entry.definition.statements.filterMap (Statement.contract? "FieldResolver") =
    artifact.fieldClasses.map ListedClass.name
  /-- If the module can be read, it declares these classes. -/
  declares : SyntaxNode.Spelled (.definition entry.definition) → entry.Readable registry →
    artifact.DeclaresContracts

namespace Generation

/-- A class for batch lookup is listed if instances can be looked up. -/
theorem batchClasses_names (registry : Registry) (entry : Entry) (text : Text) :
    (artifactFor registry entry text).batchClasses.map ListedClass.name =
      if entry.definition.hasIdentityField then [ModuleName.batchResolver entry.name] else [] := by
  change List.map _ (if entry.definition.hasIdentityField = true then _ else []) = _
  split <;> rfl

/-- An entry whose module is rendered lists its statements. -/
theorem listsStatements_of_text {registry : Registry} {entry : Entry} {text : Text}
    (rendered : textOf registry entry = .ok text) :
    ListsStatements registry entry (artifactFor registry entry text) := by
  have batch := (entry.definition.statements_lookup).trans
    (batchClasses_names registry entry text).symm
  have fields := (entry.definition.statements_computations).trans
    (fieldClasses_names registry entry text).symm
  refine ⟨outlined_of_text rendered, batch, fields, fun spelled readable => ?_⟩
  obtain ⟨lead, code, reads, module⟩ := reads_module spelled readable rendered
  have defines := ((textOf_isOk registry entry).mp ⟨text, rendered⟩).1
  have classes := contractClasses_eq spelled readable defines code
  obtain ⟨lookup, computations⟩ := List.forall_mem_cons.mp classes
  exact ⟨_, reads, module, lookup.trans batch,
    ((List.forall_mem_singleton.mp computations).trans fields)⟩

end Generation

/-! ## Runs -/

/-- The bindings module of a generation lists exactly the contracts that are declared. For every
artifact of a type the statements of its module declare the classes that are listed for it, and no
other, and so does the module itself if it can be read. A bindings module is attempted if one is
named and some artifact has a contract, and otherwise nothing happens. Its tables are those of the
artifacts, ordered by the names of the types. -/
theorem generate_listsContracts {σ : Type} {registry : Registry} {injectionModule : Option Text}
    {sink : Option (Sink σ)} {start : σ} {result : GenerationResult}
    (generated : (registry.generate injectionModule sink start).outcome = .ok result) :
    ∃ outcomes middle extra,
      GenerationRun registry sink [] (registry.entriesOf .generation) start outcomes middle ∧
      result = resultBehind (resultOf outcomes) extra ∧
      (∀ artifact ∈ (resultOf outcomes).artifacts, ∃ entry ∈ registry.entriesOf .generation,
        ListsStatements registry entry artifact) ∧
      ListsContracts registry injectionModule sink (resultOf outcomes).artifacts middle extra
        (registry.generate injectionModule sink start).sinkState := by
  obtain ⟨frozen, proceeds⟩ := proceeds_of_generate generated
  obtain ⟨outcomes, middle, extra, run, bindings, same⟩ := generate_run_of frozen proceeds
  refine ⟨outcomes, middle, extra, run, Except.ok.inj (generated.symm.trans same), ?_,
    bindings.lists run.names_sublist⟩
  intro artifact member
  obtain ⟨entry, listed, text, rendered, rfl⟩ := run.rendered artifact member
  exact ⟨entry, listed, listsStatements_of_text rendered⟩

/-- A type with an identity field and a computed field. -/
def userSchemas : List (Text × Text) :=
  [("s.graphql", "type User { id: ID posts(first: Int): Int }")]

/-- The module of a type with both contracts declares them, and the bindings module lists them. -/
theorem generate_listsContracts_user :
    ∃ result outcomes middle extra,
      ((loadedRegistry [] userSchemas "ns").freeze.generate (some "ns.bindings")
        (none : Option (Sink Unit)) ()).outcome = .ok result ∧
      result.artifacts.map Artifact.typeName = [("User" : Text), ("bindings" : Text)] ∧
      result = resultBehind (resultOf outcomes) extra ∧
      (∀ artifact ∈ (resultOf outcomes).artifacts, artifact.DeclaresContracts) ∧
      ListsContracts (loadedRegistry [] userSchemas "ns").freeze (some "ns.bindings")
        (none : Option (Sink Unit)) (resultOf outcomes).artifacts middle extra () := by
  have entries : (loadedRegistry [] userSchemas "ns").freeze.entriesOf .generation =
      (loadedRegistry [] userSchemas "ns").entries :=
    Registry.entriesOf_eq_entries _ _ (by decide +kernel) (by decide +kernel)
  have listed : ((loadedRegistry [] userSchemas "ns").freeze.generate (some "ns.bindings")
      (none : Option (Sink Unit)) ()).outcome.toOption.map
        (fun result => result.artifacts.map Artifact.typeName) =
      some [("User" : Text), ("bindings" : Text)] := by
    unfold Registry.generate generateAll
    rw [entries]
    decide +kernel
  have readable : ∀ entry ∈ (loadedRegistry [] userSchemas "ns").entries,
      entry.Readable (loadedRegistry [] userSchemas "ns").freeze := by
    have facts : ∀ entry ∈ (loadedRegistry [] userSchemas "ns").entries,
        entry.source.InComment ∧ entry.definition.Readable ∧
        dependencies (loadedRegistry [] userSchemas "ns").freeze entry = [] := by
      decide +kernel
    intro entry member
    obtain ⟨source, definition, edges⟩ := facts entry member
    refine ⟨source, definition, ?_, ?_⟩
    all_goals
      rw [edges]
      exact List.forall_mem_nil _
  cases generated : ((loadedRegistry [] userSchemas "ns").freeze.generate (some "ns.bindings")
      (none : Option (Sink Unit)) ()).outcome with
  | error failure =>
    rw [generated] at listed
    cases listed
  | ok result =>
    rw [generated] at listed
    obtain ⟨outcomes, middle, extra, -, same, statements, lists⟩ :=
      generate_listsContracts generated
    refine ⟨result, outcomes, middle, extra, rfl, Option.some.inj listed, same, ?_, lists⟩
    intro artifact member
    obtain ⟨entry, held, statement⟩ := statements artifact member
    rw [entries] at held
    exact statement.declares (loadedRegistry_spelled entry held) (readable entry held)

/-- A type that can be looked up, whose description ends with a quote. -/
def quotingUserSchemas : List (Text × Text) :=
  [("s.graphql", "\"say \\\"hi\\\"\" type User { id: ID! }")]

/-- The bindings module lists the class for batch lookup of a type whose module is none: its
docstring ends a quote early, and the quote that is left opens a literal that its line does not
end. So the module declares no class. -/
theorem generateTexts_listsUndeclared :
    ∃ result : GenerationResult,
      (generateTexts [] quotingUserSchemas "ns" (some "ns.bindings") (some memorySink)
        {}).outcome = .ok result ∧
      result.success = true ∧
      ∃ artifact ∈ result.artifacts, ∃ bindings ∈ result.artifacts,
        artifact.batchClasses.map ListedClass.name = [("UserResolver" : Text)] ∧
        bindings.text = listingText "ns.bindings" [artifact] ∧
        LogicalLine.ofText artifact.text = none ∧ ¬ artifact.DeclaresContracts := by
  have entries : (loadedRegistry [] quotingUserSchemas "ns").freeze.entriesOf .generation =
      (loadedRegistry [] quotingUserSchemas "ns").entries :=
    Registry.entriesOf_eq_entries _ _ (by decide +kernel) (by decide +kernel)
  have facts : ∃ result ∈ (generateTexts [] quotingUserSchemas "ns" (some "ns.bindings")
        (some memorySink) {}).outcome.toOption, result.success = true ∧
      ∃ artifact ∈ result.artifacts, ∃ bindings ∈ result.artifacts,
        artifact.batchClasses.map ListedClass.name = [("UserResolver" : Text)] ∧
        bindings.text = listingText "ns.bindings" [artifact] ∧
        LogicalLine.ofText artifact.text = none := by
    rw [generateTexts_outcome]
    unfold Registry.generate generateAll
    rw [entries]
    decide +kernel
  obtain ⟨result, returned, success, artifact, member, bindings, written, classes, lists, unread⟩ :=
    facts
  refine ⟨result, outcome_of_toOption returned, success, artifact, member, bindings, written,
    classes, lists, unread, ?_⟩
  rintro ⟨lines, reads, -⟩
  rw [unread] at reads
  cases reads

end SchemaForge

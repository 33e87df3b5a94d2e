import SchemaForge.Proofs.BrokenResources
import SchemaForge.Proofs.NamedDefinitions

/-!
# Loading a registry

A registry that is being loaded keeps two things true of itself: it takes further
entries, and no name occurs twice. A batch may leave definitions out, namely those whose
package is not named by a string and those whose name is taken, and it notes a problem
for each. So a registry without problems has an entry for every type that any of its
schemas defines, in the order they were added. Definitions that define no type are left
out without a problem; they are the only ones.
-/

namespace SchemaForge

/-! ## What is built -/

/-- The entries of the types that some definitions define, or the problem with each. -/
def buildsOf (source defaultPackage : Text) (origin : Origin) (definitions : List Definition) :
    List (Except Problem Entry) :=
  (definitions.filter (fun definition => decide definition.DefinesType)).map
    (fun definition => Entry.build definition source defaultPackage origin)

/-- Entries are built from one definition after another. -/
theorem buildsOf_cons (source defaultPackage : Text) (origin : Origin) (definition : Definition)
    (definitions : List Definition) :
    buildsOf source defaultPackage origin (definition :: definitions) =
      buildsOf source defaultPackage origin [definition] ++
        buildsOf source defaultPackage origin definitions := by
  by_cases defines : definition.DefinesType <;> simp [buildsOf, defines]

/-- What is built has the parts it is built from. -/
theorem Entry.build_eq_ok {definition : Definition} {source defaultPackage : Text}
    {origin : Origin} {entry : Entry} :
    Entry.build definition source defaultPackage origin = .ok entry ↔
      resolvePackage definition.directives defaultPackage
          (renderLocation (some source) definition.span.line definition.span.column) =
        .ok entry.package ∧
      entry.definition = definition ∧ entry.source = source ∧ entry.origin = origin := by
  obtain ⟨held, heldSource, package, heldOrigin⟩ := entry
  unfold Entry.build
  dsimp only
  cases resolvePackage definition.directives defaultPackage
      (renderLocation (some source) definition.span.line definition.span.column) with
  | error problem => simp
  | ok resolved =>
    simp only [Except.ok.injEq, Entry.mk.injEq]
    constructor
    · rintro ⟨rfl, rfl, rfl, rfl⟩
      exact ⟨rfl, rfl, rfl, rfl⟩
    · rintro ⟨rfl, rfl, rfl, rfl⟩
      exact ⟨rfl, rfl, rfl, rfl⟩

/-! ## Registries that are being loaded -/

/-- The registry takes entries, and each name occurs once. -/
structure Registry.Open (registry : Registry) : Prop where
  /-- Insertion is not over. -/
  unfrozen : registry.frozen = false
  /-- No name occurs twice. -/
  distinct : (registry.entries.map Entry.name).Nodup

/-- One registry is loaded further to another. Without a new problem everything that was
to be built has been entered. -/
structure Loads (before after : Registry) (builds : List (Except Problem Entry)) : Prop where
  /-- The default package stays. -/
  package : after.defaultPackage = before.defaultPackage
  /-- The registry is still being loaded. -/
  stillOpen : after.Open
  /-- Problems are added to those before, and a gap in the entries has one. -/
  complete : ∃ more, after.problems = before.problems ++ more ∧
    (more = [] → after.entries.map Except.ok = before.entries.map Except.ok ++ builds)

namespace Loads

variable {before middle after : Registry} {builds others : List (Except Problem Entry)}

/-- Nothing is loaded by nothing. -/
theorem none (opened : before.Open) : Loads before before [] :=
  ⟨rfl, opened, [], by simp, by simp⟩

/-- Loading goes on from where it stopped. -/
theorem append (first : Loads before middle builds) (second : Loads middle after others) :
    Loads before after (builds ++ others) := by
  obtain ⟨more, problems, entered⟩ := first.complete
  obtain ⟨evenMore, problemsNext, enteredNext⟩ := second.complete
  refine ⟨second.package.trans first.package, second.stillOpen, more ++ evenMore, ?_, ?_⟩
  · rw [problemsNext, problems, List.append_assoc]
  · intro nothing
    obtain ⟨rfl, rfl⟩ := List.append_eq_nil_iff.mp nothing
    rw [enteredNext rfl, entered rfl, List.append_assoc]

/-- Loading does not look at the problems before it. -/
theorem behind (loads : Loads { before with problems := [] } after builds)
    (problems : List Problem) :
    Loads { before with problems := problems }
      { after with problems := problems ++ after.problems } builds := by
  obtain ⟨more, same, entered⟩ := loads.complete
  refine ⟨loads.package, ⟨loads.stillOpen.unfrozen, loads.stillOpen.distinct⟩, more, ?_, entered⟩
  rw [same]
  rfl

end Loads

namespace Registry

variable {registry : Registry}

/-- A name that is not taken is entered. -/
theorem insert_free {entry : Entry} (opened : registry.Open)
    (free : registry.find? entry.name = none) :
    (registry.insert entry).value = .ok { registry with entries := registry.entries ++ [entry] } ∧
      ({ registry with entries := registry.entries ++ [entry] } : Registry).Open := by
  refine ⟨?_, opened.unfrozen, ?_⟩
  · unfold insert
    simp only [opened.unfrozen, Bool.false_eq_true, ↓reduceIte, free]
  · have unlike : ∀ other ∈ registry.entries, other.name ≠ entry.name := by
      simpa [find?] using free
    rw [List.map_append, List.nodup_append]
    refine ⟨opened.distinct, by simp, ?_⟩
    intro name taken other single
    obtain ⟨held, member, rfl⟩ := List.mem_map.mp taken
    obtain rfl := List.mem_singleton.mp single
    exact unlike held member

/-- A name that is taken is a problem. -/
theorem insert_taken {entry kept : Entry} (opened : registry.Open)
    (taken : registry.find? entry.name = some kept) :
    (registry.insert entry).value =
      .error (.duplicateType entry.name kept.location entry.location) := by
  unfold insert
  simp only [opened.unfrozen, Bool.false_eq_true, ↓reduceIte, taken]

end Registry

/-! ## Batches -/

/-- Everything that can become of one definition of a batch: the registry and the problems
of the batch behind it. -/
inductive Registry.Batch.Added (source : Text) (origin : Origin) (batch : Registry.Batch)
    (definition : Definition) : Registry → List Problem → Prop where
  /-- The definition has no entry, and the problem is noted. -/
  | refused {problem : Problem}
      (failed : Entry.build definition source batch.registry.defaultPackage origin =
        .error problem) :
      Added source origin batch definition batch.registry (batch.problems ++ [problem])
  /-- The definition has no name of a type and is passed over. -/
  | skipped {entry : Entry}
      (built : Entry.build definition source batch.registry.defaultPackage origin = .ok entry)
      (nameless : entry.name = []) :
      Added source origin batch definition batch.registry batch.problems
  /-- The name is taken, and both places are noted. -/
  | duplicate {entry kept : Entry}
      (built : Entry.build definition source batch.registry.defaultPackage origin = .ok entry)
      (named : entry.name ≠ []) (taken : batch.registry.find? entry.name = some kept) :
      Added source origin batch definition batch.registry
        (batch.problems ++ [.duplicateType entry.name kept.location entry.location])
  /-- The name is free, and the entry comes behind those before. -/
  | entered {entry : Entry}
      (built : Entry.build definition source batch.registry.defaultPackage origin = .ok entry)
      (named : entry.name ≠ []) (free : batch.registry.find? entry.name = none) :
      Added source origin batch definition
        { batch.registry with entries := batch.registry.entries ++ [entry] } batch.problems

/-- A definition of a batch meets one of these fates. -/
theorem Registry.Batch.add_added (source : Text) (origin : Origin) {batch : Registry.Batch}
    (definition : Definition) (opened : batch.registry.Open) :
    Added source origin batch definition (batch.add source origin definition).registry
      (batch.add source origin definition).problems := by
  unfold Registry.Batch.add
  cases built : Entry.build definition source batch.registry.defaultPackage origin with
  | error problem => exact .refused built
  | ok entry =>
    dsimp only
    by_cases empty : entry.name = []
    · simp only [empty, List.isEmpty_nil, ↓reduceIte]
      exact .skipped built empty
    · have spelled : entry.name.isEmpty = false := by simpa using empty
      simp only [spelled, Bool.false_eq_true, ↓reduceIte]
      cases found : batch.registry.find? entry.name with
      | none =>
        simp only [(Registry.insert_free opened found).1]
        exact .entered built empty found
      | some held =>
        simp only [Registry.insert_taken opened found]
        exact .duplicate built empty found

/-- One definition of a batch is entered, or passed over for defining no type, or noted as
a problem. -/
theorem Registry.Batch.add_loads (source : Text) (origin : Origin) {batch : Registry.Batch}
    {definition : Definition} (opened : batch.registry.Open)
    (named : definition.DefinesType → definition.typeName ≠ []) :
    Loads { batch.registry with problems := batch.problems }
      { (batch.add source origin definition).registry with
        problems := (batch.add source origin definition).problems }
      (buildsOf source batch.registry.defaultPackage origin [definition]) := by
  have kept (problems : List Problem) :
      ({ batch.registry with problems := problems } : Registry).Open :=
    ⟨opened.unfrozen, opened.distinct⟩
  have added := Registry.Batch.add_added source origin definition opened
  generalize (batch.add source origin definition).registry = after at added ⊢
  generalize (batch.add source origin definition).problems = problems at added ⊢
  cases added with
  | refused failed => exact ⟨rfl, kept _, [_], rfl, by simp⟩
  | duplicate built spelled taken => exact ⟨rfl, kept _, [_], rfl, by simp⟩
  | @skipped entry built nameless =>
    have same : entry.definition = definition := (Entry.build_eq_ok.mp built).2.1
    have undefined : ¬ definition.DefinesType := fun defines => named defines (same ▸ nameless)
    simpa [buildsOf, undefined] using Loads.none (kept _)
  | @entered entry built spelled free =>
    have same : entry.definition = definition := (Entry.build_eq_ok.mp built).2.1
    have defines : definition.DefinesType := Definition.definesType_of_typeName (same ▸ spelled)
    have stillOpen := (Registry.insert_free opened free).2
    refine ⟨rfl, ⟨stillOpen.unfrozen, stillOpen.distinct⟩, [], by simp, ?_⟩
    simp [buildsOf, defines, built]

/-- A batch of definitions is loaded, one after another. -/
theorem Registry.Batch.foldl_loads (source : Text) (origin : Origin)
    (definitions : List Definition) (batch : Registry.Batch) (opened : batch.registry.Open)
    (named : ∀ definition ∈ definitions, definition.DefinesType → definition.typeName ≠ []) :
    Loads { batch.registry with problems := batch.problems }
      { (definitions.foldl (Registry.Batch.add source origin) batch).registry with
        problems := (definitions.foldl (Registry.Batch.add source origin) batch).problems }
      (buildsOf source batch.registry.defaultPackage origin definitions) := by
  induction definitions generalizing batch with
  | nil => exact Loads.none ⟨opened.unfrozen, opened.distinct⟩
  | cons definition definitions inductionHypothesis =>
    have first := Registry.Batch.add_loads source origin opened
      (named definition List.mem_cons_self)
    have stillOpen : (batch.add source origin definition).registry.Open :=
      ⟨first.stillOpen.unfrozen, first.stillOpen.distinct⟩
    have rest := inductionHypothesis (batch.add source origin definition) stillOpen
      (fun other member => named other (List.mem_cons_of_mem _ member))
    have package : (batch.add source origin definition).registry.defaultPackage =
      batch.registry.defaultPackage := first.package
    rw [package] at rest
    rw [buildsOf_cons]
    exact first.append rest

/-- Adding the definitions of a schema loads them. -/
theorem Registry.addBatch_loads {registry : Registry} (source : Text) (origin : Origin)
    {definitions : List Definition} (opened : registry.Open)
    (named : ∀ definition ∈ definitions, definition.DefinesType → definition.typeName ≠ []) :
    ∃ next problems, (registry.addBatch origin source definitions).value = .ok (next, problems) ∧
      Loads registry next (buildsOf source registry.defaultPackage origin definitions) := by
  have loads := Registry.Batch.foldl_loads source origin definitions ⟨registry, [], []⟩
    opened named
  unfold Registry.addBatch
  simp only [opened.unfrozen, Bool.false_eq_true, ↓reduceIte]
  exact ⟨_, _, rfl, loads.behind registry.problems⟩

/-! ## Calls -/

namespace AddCall

/-- The entries of the types that a call adds, or the problem with each. A resource that
is no schema has none. -/
def builds (defaultPackage : Text) (call : AddCall) : List (Except Problem Entry) :=
  match call.content with
  | .error _ => []
  | .ok text =>
    match parseDocument text with
    | .error _ => []
    | .ok definitions => buildsOf call.source defaultPackage call.origin definitions

/-- One call loads the types of its schema. -/
theorem registryAfter_loads {registry : Registry} (opened : registry.Open) (call : AddCall) :
    Loads registry (call.registryAfter registry) (call.builds registry.defaultPackage) := by
  unfold registryAfter builds
  cases given : call.content with
  | error fault => exact .none opened
  | ok text =>
    cases parsed : parseDocument text with
    | error error =>
      simp only [parsed]
      exact .none opened
    | ok definitions =>
      obtain ⟨next, problems, added, loads⟩ :=
        Registry.addBatch_loads call.source call.origin opened
          (fun definition member => parseDocument_named parsed member)
      simp only [parsed, added]
      exact loads

/-- Calls load the types of their schemas. -/
theorem registryAfterAll_loads {registry : Registry} (opened : registry.Open)
    (calls : List AddCall) :
    Loads registry (registryAfterAll calls registry)
      (calls.flatMap (builds registry.defaultPackage)) := by
  induction calls generalizing registry with
  | nil => exact .none opened
  | cons call calls inductionHypothesis =>
    have first := registryAfter_loads opened call
    have rest := inductionHypothesis first.stillOpen
    rw [first.package] at rest
    exact first.append rest

end AddCall

end SchemaForge

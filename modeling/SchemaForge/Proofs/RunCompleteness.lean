import SchemaForge.Proofs.GenerationAccounting
import SchemaForge.Proofs.RegistryLoading

/-!
# Completeness of a run

A run takes schema texts in memory, those to be referred to and those to be generated. It
always has a result, and everything it reports is an error. A definition of a type can be
lost on the way for many reasons: its text is no schema, its package is not named by a
string, its name is taken, it mentions an unknown type, its module cannot be rendered, its
module is taken. Each of them is reported. So a run without a report has lost nothing: its
modules are those of the types that the texts define, each once, by package and name.

The proof follows a definition through the three stages of a run. Loading without findings
means that every text is a schema; a registry without problems has an entry for each of
their types; a generation without findings has an artifact for each entry.
-/

namespace SchemaForge

/-! ## Reports -/

/-- Nothing but errors is reported. -/
def AllErrors (diagnostics : List Diagnostic) : Prop :=
  ∀ diagnostic ∈ diagnostics, diagnostic.severity = .error

namespace AllErrors

variable {diagnostics others : List Diagnostic}

/-- Where nothing is reported, nothing but errors is. -/
theorem nil : AllErrors [] := by
  intro diagnostic member
  cases member

/-- Errors behind errors are errors. -/
theorem append (first : AllErrors diagnostics) (second : AllErrors others) :
    AllErrors (diagnostics ++ others) := by
  intro diagnostic member
  exact (List.mem_append.mp member).elim (first diagnostic) (second diagnostic)

/-- A single error. -/
theorem single {diagnostic : Diagnostic} (error : diagnostic.severity = .error) :
    AllErrors [diagnostic] := by
  intro other member
  rw [List.mem_singleton.mp member]
  exact error

/-- Problems are reported as errors. -/
theorem ofProblems {α : Type} (problem : α → Problem) (causes : List α) :
    AllErrors (causes.map (fun cause => (problem cause).diagnostic)) := by
  intro diagnostic member
  obtain ⟨cause, -, rfl⟩ := List.mem_map.mp member
  rfl

/-- Where nothing but errors is reported, success is silence. -/
theorem success_iff {result : GenerationResult} (errors : AllErrors result.diagnostics) :
    result.success = true ↔ result.diagnostics = [] := by
  have failed : ∀ diagnostic ∈ result.diagnostics, diagnostic.isError = true := by
    intro diagnostic member
    simp [Diagnostic.isError, errors diagnostic member]
  unfold GenerationResult.success
  rw [Bool.not_eq_true', List.any_eq_false, List.eq_nil_iff_forall_not_mem]
  constructor
  · intro passed diagnostic member
    exact passed diagnostic member (failed diagnostic member)
  · intro silent diagnostic member
    exact absurd member (silent diagnostic)

end AllErrors

/-- What a call finds is an error. -/
theorem AddCall.findings_allErrors (call : AddCall) : AllErrors call.findings := by
  unfold findings
  cases call.content with
  | error fault =>
    dsimp only
    split
    · exact .single rfl
    · exact .nil
  | ok text =>
    dsimp only
    cases parseDocument text with
    | ok definitions => exact .nil
    | error error =>
      cases error with
      | lexical error => exact .single rfl
      | grammatical first others => exact .ofProblems _ _

/-! ## Outcomes without a report -/

/-- The package and the name of an artifact. -/
def Artifact.place (artifact : Artifact) : Text × Text := (artifact.package, artifact.typeName)

namespace Generation

variable {σ : Type} {registry : Registry} {sink : Option (Sink σ)} {before after : σ}

namespace Emission

variable {claims : List TakenModule} {artifact : Artifact} {location : Text}
  {outcome : GenerationResult}

/-- What is reported about a module is an error. -/
theorem allErrors (emitted : Emission sink claims artifact location before outcome after) :
    AllErrors outcome.diagnostics := by
  cases emitted with
  | clash held => exact .single rfl
  | refused free given failed => exact .single rfl
  | stored | listed => exact .nil

/-- Without a report the artifact is listed. -/
theorem artifacts_eq (emitted : Emission sink claims artifact location before outcome after)
    (silent : outcome.diagnostics = []) : outcome.artifacts = [artifact] := by
  cases emitted with
  | clash | refused => cases silent
  | stored | listed => rfl

end Emission

namespace EntryOutcome

variable {earlier : List Entry} {entry : Entry} {outcome : GenerationResult}

/-- What is reported about an entry is an error. -/
theorem allErrors (settled : EntryOutcome registry sink earlier entry before outcome after) :
    AllErrors outcome.diagnostics := by
  cases settled with
  | unresolved found some => exact .ofProblems _ _
  | unrenderable resolved unfit failed => exact .single rfl
  | emission reaches rendered emitted => exact emitted.allErrors

/-- Without a report an entry has one artifact, in its place. -/
theorem places_eq (settled : EntryOutcome registry sink earlier entry before outcome after)
    (silent : outcome.diagnostics = []) : outcome.artifacts.map Artifact.place = [entry.place] := by
  cases settled with
  | unresolved found some => exact absurd (List.map_eq_nil_iff.mp silent) some
  | unrenderable resolved unfit failed => cases silent
  | emission reaches rendered emitted =>
    rw [emitted.artifacts_eq silent]
    rfl

end EntryOutcome

namespace GenerationRun

variable {earlier entries : List Entry} {outcomes : List GenerationResult}

/-- What is reported about entries is errors. -/
theorem allErrors (run : GenerationRun registry sink earlier entries before outcomes after) :
    AllErrors (resultOf outcomes).diagnostics := by
  induction run with
  | done => exact .nil
  | next first rest inductionHypothesis => exact first.allErrors.append inductionHypothesis

/-- Without a report the artifacts are those of the entries, in their order. -/
theorem places_eq (run : GenerationRun registry sink earlier entries before outcomes after)
    (silent : (resultOf outcomes).diagnostics = []) :
    (resultOf outcomes).artifacts.map Artifact.place = entries.map Entry.place := by
  induction run with
  | done => rfl
  | next first rest inductionHypothesis =>
    obtain ⟨silentFirst, silentRest⟩ := List.append_eq_nil_iff.mp silent
    change List.map _ (_ ++ _) = _
    rw [List.map_append, first.places_eq silentFirst]
    exact congrArg _ (inductionHypothesis silentRest)

/-- Without a report the artifacts have the names of the entries. -/
theorem names_eq (run : GenerationRun registry sink earlier entries before outcomes after)
    (silent : (resultOf outcomes).diagnostics = []) :
    (resultOf outcomes).artifacts.map Artifact.typeName = entries.map Entry.name := by
  have names := congrArg (List.map Prod.snd) (run.places_eq silent)
  rw [List.map_map, List.map_map] at names
  exact names

end GenerationRun

namespace BindingsOutcome

variable {injectionModule : Option Text} {entries : List Entry} {artifacts : List Artifact}
  {outcome : GenerationResult}

/-- What is reported about the bindings module is an error. -/
theorem allErrors
    (settled : BindingsOutcome registry injectionModule sink entries artifacts before outcome
      after) : AllErrors outcome.diagnostics := by
  cases settled with
  | unwanted absent => exact .nil
  | emission wanted emitted => exact emitted.allErrors

/-- Without a report the bindings module is listed if it is wanted. -/
theorem artifacts_eq
    (settled : BindingsOutcome registry injectionModule sink entries artifacts before outcome
      after) (silent : outcome.diagnostics = []) :
    outcome.artifacts =
      (bindingsArtifact? registry.defaultPackage injectionModule artifacts).toList := by
  cases settled with
  | unwanted absent =>
    rw [absent]
    rfl
  | emission wanted emitted =>
    rw [wanted, emitted.artifacts_eq silent]
    rfl

end BindingsOutcome

end Generation

/-! ## Texts -/

/-- The types that some texts define, each with the name of its text. A text that is no
schema defines none. -/
def typeDefinitions (texts : List (Text × Text)) : List (Text × Definition) :=
  texts.flatMap (fun (source, text) =>
    match parseDocument text with
    | .error _ => []
    | .ok definitions =>
      (definitions.filter (fun definition => decide definition.DefinesType)).map
        (fun definition => (source, definition)))

/-- The place of a type that a text defines: its package, if that can be resolved, and its
name. -/
def placeOf (defaultPackage : Text) (defined : Text × Definition) : Except Problem (Text × Text) :=
  (resolvePackage defined.2.directives defaultPackage
    (renderLocation (some defined.1) defined.2.span.line defined.2.span.column)).map
    (fun package => (package, defined.2.typeName))

/-- Texts as calls that add them. No files are needed. -/
def textCalls (origin : Origin) (texts : List (Text × Text)) : List AddCall :=
  texts.map (fun (source, text) => ⟨⟨[], []⟩, origin, .text source text⟩)

open AddCall

/-- Texts are added by calls, one for each. -/
theorem addTexts_eq (origin : Origin) (texts : List (Text × Text)) (session : Session) :
    (session.addTexts origin texts).value = afterAll (textCalls origin texts) session := by
  induction texts generalizing session with
  | nil => rfl
  | cons named texts inductionHypothesis =>
    obtain ⟨source, text⟩ := named
    have answered : AddCall.answer ⟨⟨[], []⟩, origin, .text source text⟩ session =
        (session.add origin source text).value.mapError Failure.problem :=
      answer_text rfl
    unfold Session.addTexts
    dsimp only
    rw [inductionHypothesis]
    change _ = afterAll (textCalls origin texts) (AddCall.after _ session)
    unfold after
    rw [answered]
    cases (session.add origin source text).value <;> rfl

/-- Texts without findings are schemas. -/
theorem parses_of_findings {origin : Origin} {texts : List (Text × Text)}
    (silent : (textCalls origin texts).flatMap findings = []) :
    ∀ named ∈ texts, ∃ definitions, parseDocument named.2 = .ok definitions := by
  rintro ⟨source, text⟩ member
  have found := List.flatMap_eq_nil_iff.mp silent _ (List.mem_map_of_mem member)
  unfold findings content at found
  dsimp only at found
  cases parsed : parseDocument text with
  | ok definitions => exact ⟨definitions, rfl⟩
  | error error => cases error <;> simp [parsed, Problem.diagnosticsOfDocument] at found

/-- The calls for texts build the entries of the types that the texts define. -/
theorem builds_textCalls (defaultPackage : Text) (origin : Origin) (texts : List (Text × Text)) :
    (textCalls origin texts).flatMap (builds defaultPackage) =
      (typeDefinitions texts).map
        (fun defined => Entry.build defined.2 defined.1 defaultPackage origin) := by
  unfold textCalls typeDefinitions
  rw [List.flatMap_map, List.map_flatMap]
  congr 1
  funext ⟨source, text⟩
  unfold builds content AddCall.source
  dsimp only
  cases parseDocument text with
  | error error => rfl
  | ok definitions => simp [buildsOf]

/-- Entries that are built of definitions are in the places of these. -/
theorem places_of_builds {defaultPackage : Text} {origin : Origin} {entries : List Entry}
    {types : List (Text × Definition)}
    (built : entries.map Except.ok =
      types.map (fun defined => Entry.build defined.2 defined.1 defaultPackage origin)) :
    (entries.map Entry.place).map Except.ok = types.map (placeOf defaultPackage) ∧
      ∀ entry ∈ entries, entry.origin = origin := by
  induction entries generalizing types with
  | nil =>
    obtain rfl := List.map_eq_nil_iff.mp built.symm
    simp
  | cons entry entries inductionHypothesis =>
    obtain ⟨defined, others, rfl, first, rest⟩ := List.map_eq_cons_iff.mp built.symm
    obtain ⟨resolved, same, -, given⟩ := Entry.build_eq_ok.mp first
    obtain ⟨places, origins⟩ := inductionHypothesis rest.symm
    have place : placeOf defaultPackage defined = .ok entry.place := by
      unfold placeOf Entry.place Entry.name
      rw [resolved, same]
      rfl
    refine ⟨?_, ?_⟩
    · rw [List.map_cons, List.map_cons, List.map_cons, places, place]
    · intro other member
      obtain rfl | member := List.mem_cons.mp member
      · exact given
      · exact origins other member

/-! ## Registries of texts -/

/-- The calls of a run: the texts to refer to, and then the texts to generate. -/
def runCalls (references schemas : List (Text × Text)) : List AddCall :=
  textCalls .reference references ++ textCalls .generation schemas

section Registries

variable (references schemas : List (Text × Text)) (defaultPackage : Text)

/-- The registry that a run loads. -/
def loadedRegistry : Registry :=
  registryAfterAll (runCalls references schemas) { defaultPackage := defaultPackage }

/-- The registry of a run is loaded from its texts. -/
theorem loadedRegistry_loads :
    Loads { defaultPackage := defaultPackage } (loadedRegistry references schemas defaultPackage)
      ((runCalls references schemas).flatMap (builds defaultPackage)) := by
  have opened : ({ defaultPackage := defaultPackage } : Registry).Open := ⟨rfl, List.nodup_nil⟩
  exact registryAfterAll_loads opened _

variable {references schemas defaultPackage}

/-- A registry without problems has an entry for every type: first those to refer to, then
those to generate. -/
theorem loadedRegistry_entries
    (silent : (loadedRegistry references schemas defaultPackage).problems = []) :
    ∃ known given : List Entry,
      (loadedRegistry references schemas defaultPackage).entries = known ++ given ∧
      (known.map Entry.place).map Except.ok =
        (typeDefinitions references).map (placeOf defaultPackage) ∧
      (given.map Entry.place).map Except.ok =
        (typeDefinitions schemas).map (placeOf defaultPackage) ∧
      ((loadedRegistry references schemas defaultPackage).entriesOf .generation).Perm given := by
  obtain ⟨more, problems, entered⟩ :=
    (loadedRegistry_loads references schemas defaultPackage).complete
  have built := entered (by rw [← silent, problems]; rfl)
  simp only [List.map_nil, List.nil_append, runCalls, List.flatMap_append,
    builds_textCalls] at built
  obtain ⟨known, given, entries, builtKnown, builtGiven⟩ := List.map_eq_append_iff.mp built
  obtain ⟨knownPlaces, knownOrigin⟩ := places_of_builds builtKnown
  obtain ⟨givenPlaces, givenOrigin⟩ := places_of_builds builtGiven
  have none : known.filter (fun entry => decide (entry.origin = .generation)) = [] := by
    refine List.filter_eq_nil_iff.mpr ?_
    intro entry member
    simp [knownOrigin entry member]
  have all : given.filter (fun entry => decide (entry.origin = .generation)) = given := by
    refine List.filter_eq_self.mpr ?_
    intro entry member
    simp [givenOrigin entry member]
  refine ⟨known, given, entries, knownPlaces, givenPlaces, ?_⟩
  have listed := (loadedRegistry references schemas defaultPackage).entriesOf_perm .generation
  rw [entries, List.filter_append, none, all] at listed
  exact listed

/-- A type to refer to has no entry to generate in a registry without problems. -/
theorem loadedRegistry_disjoint
    (silent : (loadedRegistry references schemas defaultPackage).problems = []) :
    ∀ defined ∈ typeDefinitions references,
      ∀ entry ∈ (loadedRegistry references schemas defaultPackage).entriesOf .generation,
        entry.name ≠ defined.2.typeName := by
  intro defined member entry listed same
  obtain ⟨known, given, entries, knownPlaces, -, perm⟩ := loadedRegistry_entries silent
  have distinct := (loadedRegistry_loads references schemas defaultPackage).stillOpen.distinct
  rw [entries, List.map_append, List.nodup_append] at distinct
  have placed : placeOf defaultPackage defined ∈ (known.map Entry.place).map Except.ok := by
    rw [knownPlaces]
    exact List.mem_map_of_mem member
  obtain ⟨place, held, resolved⟩ := List.mem_map.mp placed
  obtain ⟨holder, memberKnown, rfl⟩ := List.mem_map.mp held
  have name : holder.name = defined.2.typeName := by
    unfold placeOf at resolved
    cases package : resolvePackage defined.2.directives defaultPackage
        (renderLocation (some defined.1) defined.2.span.line defined.2.span.column) with
    | error problem =>
      rw [package] at resolved
      cases resolved
    | ok resolvedPackage =>
      rw [package] at resolved
      exact congrArg Prod.snd (Except.ok.inj resolved)
  exact distinct.2.2 holder.name (List.mem_map_of_mem memberKnown) entry.name
    (List.mem_map_of_mem (perm.mem_iff.mp listed)) (name.trans same.symm)

end Registries

/-! ## Runs -/

open Generation

/-- A run generates the registry of its texts, with the findings of loading and those of the
registry in front. -/
theorem generateTexts_outcome {σ : Type} (references schemas : List (Text × Text))
    (defaultPackage : Text) (injectionModule : Option Text) (sink : Option (Sink σ)) (start : σ) :
    (generateTexts references schemas defaultPackage injectionModule sink start).outcome =
      ((loadedRegistry references schemas defaultPackage).freeze.generate injectionModule sink
        start).outcome.map (fun result =>
          { result with
            diagnostics :=
              ((runCalls references schemas).flatMap findings ++
                (loadedRegistry references schemas defaultPackage).problems.map
                  Problem.diagnostic) ++ result.diagnostics }) := by
  have loaded : (((Session.start defaultPackage injectionModule).addTexts .reference
      references).value.addTexts .generation schemas).value =
      ⟨loadedRegistry references schemas defaultPackage, injectionModule,
        (runCalls references schemas).flatMap findings⟩ := by
    have both := afterAll_eq (runCalls references schemas)
      (Session.start defaultPackage injectionModule)
    rw [addTexts_eq, addTexts_eq]
    unfold afterAll at both ⊢
    rw [runCalls, List.foldl_append] at both
    exact both
  unfold generateTexts Session.generate
  dsimp only
  rw [loaded]
  rfl

/-- Where a sink does no more than refuse, a run has the findings of loading, those of the
registry and those of the generation, one behind the other. -/
theorem generateTexts_run {σ : Type} (references schemas : List (Text × Text))
    (defaultPackage : Text) (injectionModule : Option Text) {sink : Option (Sink σ)} (start : σ)
    (refuses : OnlyRefuses sink) :
    ∃ outcomes middle extra after,
      GenerationRun (loadedRegistry references schemas defaultPackage).freeze sink []
        ((loadedRegistry references schemas defaultPackage).entriesOf .generation) start outcomes
        middle ∧
      BindingsOutcome (loadedRegistry references schemas defaultPackage).freeze injectionModule
        sink ((loadedRegistry references schemas defaultPackage).entriesOf .generation)
        (resultOf outcomes).artifacts middle extra after ∧
      (generateTexts references schemas defaultPackage injectionModule sink start).outcome =
        .ok ⟨(resultOf outcomes).artifacts ++ extra.artifacts,
          ((runCalls references schemas).flatMap findings ++
            (loadedRegistry references schemas defaultPackage).problems.map Problem.diagnostic) ++
          ((resultOf outcomes).diagnostics ++ extra.diagnostics)⟩ := by
  have frozen : (loadedRegistry references schemas defaultPackage).freeze.frozen = true := rfl
  obtain ⟨outcomes, middle, extra, run, bindings, result⟩ :=
    generate_run refuses frozen injectionModule start
  refine ⟨outcomes, middle, extra, _, run, bindings, ?_⟩
  rw [generateTexts_outcome, result]
  rfl

/-- Where neither the registry nor the generation has anything to report, the artifacts of
the entries are those of the types to generate. -/
theorem Generation.GenerationRun.listsTypes {σ : Type} {references schemas : List (Text × Text)}
    {defaultPackage : Text} {sink : Option (Sink σ)} {before after : σ}
    {outcomes : List GenerationResult}
    (run : GenerationRun (loadedRegistry references schemas defaultPackage).freeze sink []
      ((loadedRegistry references schemas defaultPackage).entriesOf .generation) before outcomes
      after)
    (registered : (loadedRegistry references schemas defaultPackage).problems = [])
    (generated : (resultOf outcomes).diagnostics = []) :
    (((resultOf outcomes).artifacts.map Artifact.place).map Except.ok).Perm
        ((typeDefinitions schemas).map (placeOf defaultPackage)) ∧
      ((resultOf outcomes).artifacts.map Artifact.place).Pairwise Precedes ∧
      ((resultOf outcomes).artifacts.map Artifact.typeName).Nodup ∧
      ∀ defined ∈ typeDefinitions references, ∀ artifact ∈ (resultOf outcomes).artifacts,
        artifact.typeName ≠ defined.2.typeName := by
  obtain ⟨-, given, -, -, places, perm⟩ := loadedRegistry_entries registered
  have distinct := (loadedRegistry_loads references schemas defaultPackage).stillOpen.distinct
  have listed := run.places_eq generated
  have names := run.names_eq generated
  refine ⟨?_, ?_, ?_, ?_⟩
  · rw [listed, ← places]
    exact (perm.map _).map _
  · rw [listed]
    exact Registry.entriesOf_increasing _ _ distinct
  · rw [names]
    exact Registry.entriesOf_distinct _ _ distinct
  · intro defined member artifact held same
    have named : artifact.typeName ∈ (resultOf outcomes).artifacts.map Artifact.typeName :=
      List.mem_map_of_mem held
    rw [names] at named
    obtain ⟨entry, memberEntry, name⟩ := List.mem_map.mp named
    exact loadedRegistry_disjoint registered defined member entry memberEntry (name.trans same)

/-- A run is complete. It has a result, and everything in it that is no artifact is an
error; so it succeeds exactly if it reports nothing. If it does, every text is a schema,
and the artifacts are those of the types that the texts to generate define: each type has
one, in the package that its definition resolves to, and no type to refer to has one. They
are listed by package and name without a tie, and a bindings module that is wanted comes
last. -/
theorem generateTexts_complete (references schemas : List (Text × Text)) (defaultPackage : Text)
    (injectionModule : Option Text) (sink : Option (Sink MemoryStore)) (start : MemoryStore)
    (plain : sink = none ∨ sink = some memorySink) :
    ∃ result,
      (generateTexts references schemas defaultPackage injectionModule sink start).outcome =
        .ok result ∧
      (∀ diagnostic ∈ result.diagnostics, diagnostic.severity = .error) ∧
      (result.success = true ↔ result.diagnostics = []) ∧
      (result.success = true →
        (∀ named ∈ references ++ schemas, ∃ definitions,
          parseDocument named.2 = .ok definitions) ∧
        ∃ main : List Artifact,
          result.artifacts =
            main ++ (bindingsArtifact? defaultPackage injectionModule main).toList ∧
          ((main.map Artifact.place).map Except.ok).Perm
            ((typeDefinitions schemas).map (placeOf defaultPackage)) ∧
          (main.map Artifact.place).Pairwise Precedes ∧
          (main.map Artifact.typeName).Nodup ∧
          ∀ defined ∈ typeDefinitions references, ∀ artifact ∈ main,
            artifact.typeName ≠ defined.2.typeName) := by
  have refuses : OnlyRefuses sink := by
    obtain rfl | rfl := plain
    · exact onlyRefuses_none
    · exact onlyRefuses_memorySink
  obtain ⟨outcomes, middle, extra, after, run, bindings, outcome⟩ :=
    generateTexts_run references schemas defaultPackage injectionModule start refuses
  refine ⟨_, outcome, ?_⟩
  have errors : AllErrors
      (((runCalls references schemas).flatMap findings ++
          (loadedRegistry references schemas defaultPackage).problems.map Problem.diagnostic) ++
        ((resultOf outcomes).diagnostics ++ extra.diagnostics)) := by
    refine .append (.append ?_ (.ofProblems id _)) (run.allErrors.append bindings.allErrors)
    intro diagnostic member
    obtain ⟨call, -, found⟩ := List.mem_flatMap.mp member
    exact call.findings_allErrors diagnostic found
  refine ⟨errors, AllErrors.success_iff errors, ?_⟩
  intro success
  have silent := (AllErrors.success_iff errors).mp success
  simp only [List.append_eq_nil_iff, List.map_eq_nil_iff] at silent
  obtain ⟨⟨read, registered⟩, generated, bound⟩ := silent
  refine ⟨?_, (resultOf outcomes).artifacts, ?_, run.listsTypes registered generated⟩
  · rw [runCalls, List.flatMap_append, List.append_eq_nil_iff] at read
    intro named member
    obtain member | member := List.mem_append.mp member
    · exact parses_of_findings read.1 named member
    · exact parses_of_findings read.2 named member
  · have package : (loadedRegistry references schemas defaultPackage).freeze.defaultPackage =
      defaultPackage := (loadedRegistry_loads references schemas defaultPackage).package
    have added := bindings.artifacts_eq bound
    rw [package] at added
    exact congrArg _ added

/-- A run of a type that mentions a type to refer to succeeds and has one artifact. -/
theorem generateTexts_complete_dates :
    ∃ result : GenerationResult,
      (generateTexts [("dates.graphql", "scalar Date")]
        [("posts.graphql", "type Post { on: Date }")] "ns" none (some memorySink)
        {}).outcome = .ok result ∧
      result.success = true ∧
      ((result.artifacts.map Artifact.place).map Except.ok).Perm
        ((typeDefinitions [("posts.graphql", "type Post { on: Date }")]).map
          (placeOf "ns")) ∧
      result.artifacts.length = 1 := by
  obtain ⟨result, outcome, -, -, complete⟩ := generateTexts_complete
    [("dates.graphql", "scalar Date")] [("posts.graphql", "type Post { on: Date }")]
    "ns" none (some memorySink) {} (.inr rfl)
  have succeeds : (generateTexts [("dates.graphql", "scalar Date")]
      [("posts.graphql", "type Post { on: Date }")] "ns" none (some memorySink)
      {}).outcome.toOption.map GenerationResult.success = some true := by decide +kernel
  rw [outcome] at succeeds
  have success : result.success = true := Option.some.inj succeeds
  obtain ⟨-, main, artifacts, places, -⟩ := complete success
  have bindingsFree : result.artifacts = main := by
    rw [artifacts]
    exact List.append_nil main
  have count : (typeDefinitions
      [("posts.graphql", "type Post { on: Date }")]).length = 1 := by decide +kernel
  rw [← bindingsFree] at places
  have same := places.length_eq
  rw [List.length_map, List.length_map, List.length_map, count] at same
  exact ⟨result, outcome, success, places, same⟩

end SchemaForge

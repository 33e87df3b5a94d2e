import SchemaForge.Proofs.ModuleLayout
import SchemaForge.Proofs.RunCompleteness

/-!
# The import graph of a run

A module imports the modules of the types that its type mentions. The line of an import is
written for the importing module, from the entry of the mentioned type; the path and the text
of the imported module come from the generation of that entry. In a run without a report the
two agree: an edge to a type that is generated ends at one module, and that is the one of the
type.

Two facts carry the proof. An entry has an artifact if the run has nothing to report, so an
edge has somewhere to end. And no two artifacts share a name and a path: names of entries are
distinct, and the bindings module, which may have any name, would have claimed a module that
is taken.
-/

namespace SchemaForge

/-- Errors among the findings of a run that succeeds are none. -/
theorem AllErrors.eq_nil_of_success {diagnostics : List Diagnostic} {result : GenerationResult}
    (errors : AllErrors diagnostics) (success : result.success = true)
    (found : ∀ diagnostic ∈ diagnostics, diagnostic ∈ result.diagnostics) : diagnostics = [] := by
  refine List.eq_nil_iff_forall_not_mem.mpr ?_
  intro diagnostic member
  have failed : result.diagnostics.any Diagnostic.isError = true :=
    List.any_eq_true.mpr
      ⟨diagnostic, found diagnostic member, by simp [Diagnostic.isError, errors diagnostic member]⟩
  simp [GenerationResult.success, failed] at success

/-! ## Edges -/

/-- An edge ends at an artifact that has its name and its path. -/
def Dependency.EndsAt (dependency : Dependency) (artifact : Artifact) : Prop :=
  artifact.typeName = dependency.typeName ∧ artifact.qualifiedName = dependency.importPath

instance (dependency : Dependency) (artifact : Artifact) :
    Decidable (dependency.EndsAt artifact) := by
  unfold Dependency.EndsAt
  infer_instance

namespace Generation

variable {registry : Registry} {entry : Entry} {dependency : Dependency}

/-- An edge leads to the entry of a name that is needed. -/
theorem mem_dependencies :
    dependency ∈ dependencies registry entry ↔
      ∃ name ∈ neededNames entry, ∃ other, registry.find? name = some other ∧
        Dependency.ofEntry other = dependency := by
  simp [dependencies, Option.map_eq_some_iff]

/-- The entry of a name has the name. -/
theorem name_of_find? {name : Text} {other : Entry} (found : registry.find? name = some other) :
    other ∈ registry.entries ∧ other.name = name := by
  unfold Registry.find? at found
  exact ⟨List.mem_of_find?_eq_some found, by simpa using List.find?_some found⟩

/-- The edges have the names that are needed and known. -/
theorem dependencies_names (registry : Registry) (entry : Entry) :
    (dependencies registry entry).map Dependency.typeName =
      (neededNames entry).filter (fun name => (registry.find? name).isSome) := by
  unfold dependencies
  induction neededNames entry with
  | nil => rfl
  | cons name names inductionHypothesis =>
    cases found : registry.find? name with
    | none => simpa [found] using inductionHypothesis
    | some other =>
      have named : (Dependency.ofEntry other).typeName = name := (name_of_find? found).2
      simp [found, named, ← inductionHypothesis]

/-- Edges lead to different types. -/
theorem dependencies_distinct (registry : Registry) (entry : Entry) :
    ((dependencies registry entry).map Dependency.typeName).Nodup := by
  have once : (Text.distinct entry.definition.mentions).Nodup := by
    refine (Text.distinct_ordered _).imp ?_
    rintro earlier later before rfl
    exact Nat.lt_irrefl _ before
  rw [dependencies_names, neededNames, referencedNames_eq, List.filter_filter]
  exact once.filter _

/-- No edge leads back to the type where it starts. -/
theorem dependencies_foreign (registry : Registry) (entry : Entry) :
    entry.name ∉ (dependencies registry entry).map Dependency.typeName := by
  rw [dependencies_names]
  intro member
  obtain ⟨needed, -⟩ := List.mem_filter.mp member
  simpa using (List.mem_filter.mp needed).2

end Generation

/-! ## Artifacts -/

namespace Generation

variable {σ : Type} {registry : Registry} {sink : Option (Sink σ)} {before after : σ}

/-- Without a report an entry has come as far as its module, and its artifact is the one that
is rendered for it. -/
theorem EntryOutcome.artifacts_eq {earlier : List Entry} {entry : Entry}
    {outcome : GenerationResult}
    (settled : EntryOutcome registry sink earlier entry before outcome after)
    (silent : outcome.diagnostics = []) :
    Reaches registry entry ∧
      outcome.artifacts.map Except.ok =
        [(textOf registry entry).map (artifactFor registry entry)] := by
  cases settled with
  | unresolved found some => exact absurd (List.map_eq_nil_iff.mp silent) some
  | unrenderable resolved unfit failed => cases silent
  | emission reaches rendered emitted =>
    rw [emitted.artifacts_eq silent, rendered]
    exact ⟨reaches, rfl⟩

/-- Without a report the artifacts of a run are those that are rendered for its entries. -/
theorem GenerationRun.artifacts_eq {earlier entries : List Entry}
    {outcomes : List GenerationResult}
    (run : GenerationRun registry sink earlier entries before outcomes after)
    (silent : (resultOf outcomes).diagnostics = []) :
    (∀ entry ∈ entries, Reaches registry entry) ∧
      (resultOf outcomes).artifacts.map Except.ok =
        entries.map (fun entry => (textOf registry entry).map (artifactFor registry entry)) := by
  induction run with
  | done => exact ⟨by simp, rfl⟩
  | next first rest inductionHypothesis =>
    obtain ⟨silentFirst, silentRest⟩ := List.append_eq_nil_iff.mp silent
    obtain ⟨reaches, artifact⟩ := first.artifacts_eq silentFirst
    obtain ⟨reachesRest, artifacts⟩ := inductionHypothesis silentRest
    refine ⟨List.forall_mem_cons.mpr ⟨reaches, reachesRest⟩, ?_⟩
    change List.map _ (_ ++ _) = _
    rw [List.map_append, artifact]
    exact congrArg _ artifacts

/-- Without a report the artifacts of a run are those of its entries, with their texts. -/
theorem GenerationRun.mem_artifacts {earlier entries : List Entry}
    {outcomes : List GenerationResult}
    (run : GenerationRun registry sink earlier entries before outcomes after)
    (silent : (resultOf outcomes).diagnostics = []) {artifact : Artifact} :
    artifact ∈ (resultOf outcomes).artifacts ↔
      ∃ entry ∈ entries, ∃ text, textOf registry entry = .ok text ∧
        artifactFor registry entry text = artifact := by
  have listed : Except.ok artifact ∈
      (resultOf outcomes).artifacts.map (Except.ok : Artifact → Except RenderFault Artifact) ↔
        artifact ∈ (resultOf outcomes).artifacts := by simp
  rw [← listed, (run.artifacts_eq silent).2, List.mem_map]
  refine exists_congr fun entry => and_congr_right fun _ => ?_
  cases textOf registry entry <;> simp [Except.map]

/-- The claim of an entry that came so far is held on its module. -/
theorem claimOn_ne_none {entries : List Entry} {entry : Entry} (member : entry ∈ entries)
    (reaches : Reaches registry entry) :
    claimOn (claimsOf registry entries) (entry.package, ModuleName.ofType entry.name) ≠ none := by
  have claims : entryClaim entry ∈ claimsOf registry entries :=
    List.mem_map_of_mem (List.mem_filter.mpr ⟨member, by simpa using reaches⟩)
  unfold claimOn
  intro free
  have unlike := List.find?_eq_none.mp free _ claims
  simp [entryClaim] at unlike

/-- A module that is listed was free. -/
theorem Emission.free_of_mem {claims : List TakenModule} {artifact other : Artifact}
    {location : Text} {outcome : GenerationResult}
    (emitted : Emission sink claims artifact location before outcome after)
    (member : other ∈ outcome.artifacts) :
    other = artifact ∧ claimOn claims (other.package, other.moduleName) = none := by
  cases emitted with
  | clash held => cases member
  | refused free given failed => cases member
  | stored free given written =>
    obtain rfl := List.mem_singleton.mp member
    exact ⟨rfl, free⟩
  | listed free given =>
    obtain rfl := List.mem_singleton.mp member
    exact ⟨rfl, free⟩

/-- The bindings module imports no type, and its module was free. -/
theorem BindingsOutcome.of_mem {injectionModule : Option Text} {entries : List Entry}
    {artifacts : List Artifact} {artifact : Artifact} {outcome : GenerationResult}
    (settled : BindingsOutcome registry injectionModule sink entries artifacts before outcome
      after) (member : artifact ∈ outcome.artifacts) :
    artifact.dependencies = [] ∧
      claimOn (claimsOf registry entries) (artifact.package, artifact.moduleName) = none := by
  cases settled with
  | unwanted absent => cases member
  | emission wanted emitted =>
    obtain ⟨rfl, free⟩ := emitted.free_of_mem member
    refine ⟨?_, free⟩
    unfold bindingsArtifact? at wanted
    split at wanted
    · cases wanted
    · cases wanted
    · dsimp only at wanted
      split at wanted
      · cases wanted
      · cases wanted
        rfl

end Generation

/-- Where names are distinct, a test that goes by the name finds one item. -/
theorem filter_eq_singleton {α : Type} {items : List α} {name : α → Text} {test : α → Bool}
    {item : α} (distinct : (items.map name).Nodup) (member : item ∈ items)
    (passes : test item = true) (named : ∀ other, test other = true → name other = name item) :
    items.filter test = [item] := by
  obtain ⟨front, back, rfl⟩ := List.append_of_mem member
  have others : ∀ other ∈ front ++ back, test other ≠ true := by
    intro other held passed
    have apart := (List.perm_middle.map name).nodup_iff.mp distinct
    rw [List.map_cons, List.nodup_cons] at apart
    exact apart.1 (named other passed ▸ List.mem_map_of_mem held)
  rw [List.forall_mem_append] at others
  rw [List.filter_append, List.filter_cons_of_pos passes, List.filter_eq_nil_iff.mpr others.1,
    List.filter_eq_nil_iff.mpr others.2]
  rfl

/-- Modules of one type and one path are in one package. -/
theorem package_of_path {package other module : Text}
    (same : Text.concat [package, ".", module] = Text.concat [other, ".", module]) :
    package = other := by
  simpa [Text.concat] using same

/-! ## Runs -/

open Generation

/-- The result of a run: the artifacts of the entries to generate and what the bindings module
adds, with what loading has to report in front of their findings. -/
theorem generateTexts_runs {σ : Type} {references schemas : List (Text × Text)}
    {defaultPackage : Text} {injectionModule : Option Text} {sink : Option (Sink σ)} {start : σ}
    {result : GenerationResult}
    (outcome : (generateTexts references schemas defaultPackage injectionModule sink
      start).outcome = .ok result) :
    ∃ outcomes middle extra after,
      GenerationRun (loadedRegistry references schemas defaultPackage).freeze sink []
        ((loadedRegistry references schemas defaultPackage).entriesOf .generation) start outcomes
        middle ∧
      BindingsOutcome (loadedRegistry references schemas defaultPackage).freeze injectionModule
        sink ((loadedRegistry references schemas defaultPackage).entriesOf .generation)
        (resultOf outcomes).artifacts middle extra after ∧
      (∀ diagnostic ∈ (resultOf outcomes).diagnostics, diagnostic ∈ result.diagnostics) ∧
      result.artifacts = (resultOf outcomes).artifacts ++ extra.artifacts := by
  rw [generateTexts_outcome] at outcome
  cases generated : ((loadedRegistry references schemas defaultPackage).freeze.generate
      injectionModule sink start).outcome with
  | error failure =>
    rw [generated] at outcome
    cases outcome
  | ok plain =>
    obtain ⟨frozen, proceeds⟩ := proceeds_of_generate generated
    obtain ⟨outcomes, middle, extra, run, bindings, same⟩ := generate_run_of frozen proceeds
    obtain rfl := Except.ok.inj (generated.symm.trans same)
    rw [generated] at outcome
    obtain rfl := Except.ok.inj outcome
    refine ⟨outcomes, middle, extra, _, run, bindings, ?_, rfl⟩
    intro diagnostic member
    exact List.mem_append_right _ (List.mem_append_left _ member)

/-- An outcome with a result is that result. -/
theorem outcome_of_toOption {ε α : Type} {outcome : Except ε α} {result : α}
    (returned : result ∈ outcome.toOption) : outcome = .ok result := by
  cases outcome with
  | error failure => cases returned
  | ok other => exact congrArg Except.ok (Option.some.inj returned)

/-- In a run that succeeds, the entries to generate have nothing to report. -/
theorem generateTexts_succeeds {σ : Type} {references schemas : List (Text × Text)}
    {defaultPackage : Text} {injectionModule : Option Text} {sink : Option (Sink σ)} {start : σ}
    {result : GenerationResult}
    (outcome : (generateTexts references schemas defaultPackage injectionModule sink
      start).outcome = .ok result) (success : result.success = true) :
    ∃ outcomes middle extra after,
      GenerationRun (loadedRegistry references schemas defaultPackage).freeze sink []
        ((loadedRegistry references schemas defaultPackage).entriesOf .generation) start outcomes
        middle ∧
      BindingsOutcome (loadedRegistry references schemas defaultPackage).freeze injectionModule
        sink ((loadedRegistry references schemas defaultPackage).entriesOf .generation)
        (resultOf outcomes).artifacts middle extra after ∧
      (resultOf outcomes).diagnostics = [] ∧
      result.artifacts = (resultOf outcomes).artifacts ++ extra.artifacts := by
  obtain ⟨outcomes, middle, extra, after, run, bindings, found, artifacts⟩ :=
    generateTexts_runs outcome
  exact ⟨outcomes, middle, extra, after, run, bindings,
    run.allErrors.eq_nil_of_success success found, artifacts⟩

/-- An edge to a type that is generated ends at one artifact, and that is the one of its entry. -/
theorem Generation.GenerationRun.edge_target {σ : Type} {registry : Registry}
    {injectionModule : Option Text} {sink : Option (Sink σ)} {before middle after : σ}
    {outcomes : List GenerationResult} {extra : GenerationResult}
    (run : GenerationRun registry sink [] (registry.entriesOf .generation) before outcomes middle)
    (bindings : BindingsOutcome registry injectionModule sink (registry.entriesOf .generation)
      (resultOf outcomes).artifacts middle extra after)
    (silent : (resultOf outcomes).diagnostics = [])
    (distinct : (registry.entries.map Entry.name).Nodup) {entry : Entry} {dependency : Dependency}
    (edge : dependency ∈ dependencies registry entry)
    (generated : dependency.origin = .generation) :
    ∃ target text, registry.find? dependency.typeName = some target ∧
      Dependency.ofEntry target = dependency ∧ textOf registry target = .ok text ∧
      ((resultOf outcomes).artifacts ++ extra.artifacts).filter
        (fun other => decide (dependency.EndsAt other)) = [artifactFor registry target text] := by
  obtain ⟨name, -, target, found, rfl⟩ := mem_dependencies.mp edge
  have listed : target ∈ registry.entriesOf .generation :=
    (registry.entriesOf_perm .generation).mem_iff.mpr
      (List.mem_filter.mpr ⟨(name_of_find? found).1, decide_eq_true generated⟩)
  have reaches := (run.artifacts_eq silent).1 target listed
  obtain ⟨text, rendered⟩ := (textOf_isOk registry target).mpr reaches.2
  have named : registry.find? (Dependency.ofEntry target).typeName = some target := by
    rw [← found, ← (name_of_find? found).2]
    rfl
  refine ⟨target, text, named, rfl, rendered, ?_⟩
  have names : ((resultOf outcomes).artifacts.map Artifact.typeName).Nodup := by
    rw [run.names_eq silent]
    exact registry.entriesOf_distinct _ distinct
  have one : (resultOf outcomes).artifacts.filter
      (fun other => decide ((Dependency.ofEntry target).EndsAt other)) =
        [artifactFor registry target text] := by
    refine filter_eq_singleton names
      ((run.mem_artifacts silent).mpr ⟨target, listed, text, rendered, rfl⟩)
      (decide_eq_true ⟨rfl, rfl⟩) ?_
    intro other ends
    exact (of_decide_eq_true ends).1
  -- The bindings module may have the name of a type, but not also its package.
  have none : extra.artifacts.filter
      (fun other => decide ((Dependency.ofEntry target).EndsAt other)) = [] := by
    refine List.filter_eq_nil_iff.mpr ?_
    intro other member ends
    obtain ⟨named, path⟩ := of_decide_eq_true ends
    have package : other.package = target.package := by
      unfold Artifact.qualifiedName Artifact.moduleName at path
      rw [named] at path
      exact package_of_path path
    have free := (bindings.of_mem member).2
    unfold Artifact.moduleName at free
    rw [named, package] at free
    exact claimOn_ne_none listed reaches free
  rw [List.filter_append, one, none]
  rfl

end SchemaForge

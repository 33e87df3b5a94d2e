import SchemaForge.Proofs.ImportGraph
import SchemaForge.Proofs.ModuleFiles

/-!
# Distinct files

No two artifacts of a generation share a package and a module, because the first one that
claims a module keeps it. The claim goes by the package as it is spelled, though, and the file
by the parts of its path. Where each step to a file is one part, the one tells the other, and
no artifact takes the file of another.

Without that condition two spellings of a package can lead to one file, and the path that an
artifact tells need not be the file it is written to.
-/

namespace SchemaForge

namespace Generation

variable {σ : Type} {registry : Registry} {sink : Option (Sink σ)} {before after : σ}

/-! ## Modules of a run -/

/-- The package and the module of an artifact. -/
def moduleOf (artifact : Artifact) : Text × Text := (artifact.package, artifact.moduleName)

/-- A module that is free behind more claims is free behind fewer. -/
theorem claimOn_append_eq_none {claims more : List TakenModule} {module : Text × Text} :
    claimOn (claims ++ more) module = none ↔
      claimOn claims module = none ∧ claimOn more module = none := by
  unfold claimOn
  rw [List.find?_append, Option.or_eq_none_iff]

/-- What an artifact leads to is listed only if its module was free. -/
theorem Emission.artifacts_cases {claims : List TakenModule} {artifact : Artifact}
    {location : Text} {outcome : GenerationResult}
    (emitted : Emission sink claims artifact location before outcome after) :
    outcome.artifacts = [] ∨
      outcome.artifacts = [artifact] ∧ claimOn claims (moduleOf artifact) = none := by
  cases emitted with
  | clash held => exact .inl rfl
  | refused free given failed => exact .inl rfl
  | stored free given written => exact .inr ⟨rfl, free⟩
  | listed free given => exact .inr ⟨rfl, free⟩

/-- An entry has at most one artifact, and its module was free. -/
theorem EntryOutcome.artifacts_cases {earlier : List Entry} {entry : Entry}
    {outcome : GenerationResult}
    (settled : EntryOutcome registry sink earlier entry before outcome after) :
    outcome.artifacts = [] ∨
      ∃ text, outcome.artifacts = [artifactFor registry entry text] ∧ Reaches registry entry ∧
        claimOn (claimsOf registry earlier) (moduleOf (artifactFor registry entry text)) = none := by
  cases settled with
  | unresolved found some => exact .inl rfl
  | unrenderable resolved unfit failed => exact .inl rfl
  | emission reaches rendered emitted =>
    obtain none | ⟨one, free⟩ := emitted.artifacts_cases
    · exact .inl none
    · exact .inr ⟨_, one, reaches, free⟩

/-- The modules of a run were free before it, are claimed behind it, and differ from each
other. By induction along the run: an entry has claimed its module before the later ones. -/
theorem GenerationRun.modules {earlier entries : List Entry} {outcomes : List GenerationResult}
    (run : GenerationRun registry sink earlier entries before outcomes after) :
    (∀ artifact ∈ (resultOf outcomes).artifacts,
      claimOn (claimsOf registry earlier) (moduleOf artifact) = none ∧
        claimOn (claimsOf registry (earlier ++ entries)) (moduleOf artifact) ≠ none) ∧
      (resultOf outcomes).artifacts.Pairwise
        (fun one other => moduleOf one ≠ moduleOf other) := by
  induction run with
  | done => exact ⟨by simp [resultOf], .nil⟩
  | @next earlier entries entry _ _ _ outcome outcomes first rest inductionHypothesis =>
    obtain ⟨places, apart⟩ := inductionHypothesis
    rw [claimsOf_append, List.append_assoc, List.singleton_append] at places
    have listed : (resultOf (outcome :: outcomes)).artifacts =
        outcome.artifacts ++ (resultOf outcomes).artifacts := rfl
    have later : ∀ artifact ∈ (resultOf outcomes).artifacts,
        claimOn (claimsOf registry earlier) (moduleOf artifact) = none ∧
          claimOn (claimsOf registry (earlier ++ entry :: entries)) (moduleOf artifact) ≠ none := by
      intro artifact member
      obtain ⟨free, held⟩ := places artifact member
      exact ⟨(claimOn_append_eq_none.mp free).1, held⟩
    obtain none | ⟨text, one, reaches, free⟩ := first.artifacts_cases
    · rw [listed, none]
      exact ⟨later, apart⟩
    · rw [listed, one, List.singleton_append, List.forall_mem_cons, List.pairwise_cons]
      refine ⟨⟨⟨free, claimOn_ne_none (by simp) reaches⟩, later⟩, ?_, apart⟩
      intro artifact member same
      obtain ⟨unclaimed, -⟩ := places artifact member
      rw [if_pos reaches, claimOn_append_eq_none, ← same] at unclaimed
      have claimed : claimOn [entryClaim entry] (entry.package, ModuleName.ofType entry.name) =
          some (entryClaim entry) := by
        simp [claimOn, entryClaim]
      exact absurd (claimed.symm.trans unclaimed.2) (by simp)

/-- The artifacts of a generation have different modules. -/
theorem generate_modules {injectionModule : Option Text} {start : σ} {result : GenerationResult}
    (generated : (registry.generate injectionModule sink start).outcome = .ok result) :
    result.artifacts.Pairwise (fun one other => moduleOf one ≠ moduleOf other) := by
  obtain ⟨frozen, proceeds⟩ := proceeds_of_generate generated
  obtain ⟨outcomes, middle, extra, run, bindings, same⟩ := generate_run_of frozen proceeds
  obtain rfl := Except.ok.inj (generated.symm.trans same)
  obtain ⟨places, apart⟩ := run.modules
  have added : extra.artifacts.length ≤ 1 := Nat.le_trans (Nat.le_add_right _ _) bindings.atMostOne
  change ((resultOf outcomes).artifacts ++ extra.artifacts).Pairwise _
  refine List.pairwise_append.mpr ⟨apart, ?_, ?_⟩
  · cases artifacts : extra.artifacts with
    | nil => exact .nil
    | cons artifact others =>
      rw [artifacts] at added
      obtain rfl := List.eq_nil_of_length_eq_zero (Nat.le_zero.mp (Nat.le_of_succ_le_succ added))
      exact List.pairwise_singleton _ _
  · intro one member other behind modules
    obtain ⟨-, held⟩ := places one member
    have free := (bindings.of_mem behind).2
    rw [List.nil_append, modules] at held
    exact held free

end Generation

open Generation

/-- The artifacts of a generation do not take each other's files, whatever the root is, and
each is written to the file that it tells. It is asked that each step to the file of an
artifact is one part of its path. -/
theorem generate_distinctFiles {σ : Type} {registry : Registry} {injectionModule : Option Text}
    {sink : Option (Sink σ)} {start : σ} {result : GenerationResult}
    (generated : (registry.generate injectionModule sink start).outcome = .ok result)
    (plain : ∀ artifact ∈ result.artifacts,
      FileStore.Plain artifact.package artifact.typeName) :
    result.artifacts.Pairwise (fun one other => ∀ root,
        FileStore.pathFor root one.package one.typeName ≠
          FileStore.pathFor root other.package other.typeName) ∧
      ∀ artifact ∈ result.artifacts, ∀ root,
        FileStore.pathFor root artifact.package artifact.typeName =
          root.join artifact.relativePath := by
  refine ⟨?_, fun artifact member => FileStore.pathFor_relativePath (plain artifact member)⟩
  refine (generate_modules generated).imp_of_mem ?_
  intro one other member otherMember apart root same
  obtain ⟨packages, modules⟩ :=
    FileStore.pathFor_inj (plain one member) (plain other otherMember) same
  exact apart (Prod.ext packages modules)

/-- A registry of two scalars, whose modules have one name, in two packages. -/
def scalarRegistry (package other : Text) : Registry :=
  { defaultPackage := "ns", frozen := true,
    entries :=
      [⟨.scalar ⟨"Date", [], none, .unknown⟩, "s.graphql", package, .generation⟩,
        ⟨.scalar ⟨"date", [], none, .unknown⟩, "s.graphql", other, .generation⟩] }

/-- The packages and types of the artifacts of a generation, if there is a result. -/
def generatedTypes (registry : Registry) : Option (List (Text × Text)) :=
  (registry.generate none (none : Option (Sink Unit)) ()).outcome.toOption.map (fun result =>
    result.artifacts.map (fun artifact => (artifact.package, artifact.typeName)))

/-- Where there are types there is a result that lists them. -/
theorem exists_of_generatedTypes {registry : Registry} {types : List (Text × Text)}
    (listed : generatedTypes registry = some types) :
    ∃ result, (registry.generate none (none : Option (Sink Unit)) ()).outcome = .ok result ∧
      result.artifacts.map (fun artifact => (artifact.package, artifact.typeName)) = types := by
  unfold generatedTypes at listed
  cases generated : (registry.generate none (none : Option (Sink Unit)) ()).outcome with
  | error failure =>
    rw [generated] at listed
    cases listed
  | ok result =>
    rw [generated] at listed
    exact ⟨result, rfl, Option.some.inj listed⟩

/-- Two modules of one name in two packages. -/
theorem generate_distinctFiles_scalars :
    ∃ result,
      ((scalarRegistry "a.b" "a.c").generate none (none : Option (Sink Unit)) ()).outcome =
        .ok result ∧
      result.artifacts.map (fun artifact => (artifact.package, artifact.typeName)) =
        [(("a.b" : Text), ("Date" : Text)), (("a.c" : Text), ("date" : Text))] ∧
      result.artifacts.Pairwise (fun one other => ∀ root,
        FileStore.pathFor root one.package one.typeName ≠
          FileStore.pathFor root other.package other.typeName) := by
  have listed : generatedTypes (scalarRegistry "a.b" "a.c") =
      some [(("a.b" : Text), ("Date" : Text)), (("a.c" : Text), ("date" : Text))] := by
    unfold generatedTypes Registry.generate generateAll
    rw [Registry.entriesOf_eq_entries _ _ (by decide +kernel) (by decide +kernel)]
    decide +kernel
  obtain ⟨result, generated, types⟩ := exists_of_generatedTypes listed
  have plain : ∀ artifact ∈ result.artifacts,
      FileStore.Plain artifact.package artifact.typeName := by
    intro artifact member
    have type : (artifact.package, artifact.typeName) ∈
        [(("a.b" : Text), ("Date" : Text)), (("a.c" : Text), ("date" : Text))] :=
      types ▸ List.mem_map_of_mem member
    simp only [List.mem_cons, List.not_mem_nil, or_false, Prod.mk.injEq] at type
    obtain ⟨package, name⟩ | ⟨package, name⟩ := type
    · rw [package, name]
      exact ⟨by decide, by decide⟩
    · rw [package, name]
      exact ⟨by decide, by decide⟩
  exact ⟨result, generated, types, (generate_distinctFiles generated plain).1⟩

/-- Two spellings of a package: both modules are artifacts of one generation, they have one
file below every root, and one of them tells another file. -/
theorem scalarRegistry_sharesFile :
    ∃ result one other,
      ((scalarRegistry ".a" "a").generate none (none : Option (Sink Unit)) ()).outcome =
        .ok result ∧
      result.artifacts = [one, other] ∧ one ≠ other ∧
      (∀ root, FileStore.pathFor root one.package one.typeName =
        FileStore.pathFor root other.package other.typeName) ∧
      FileStore.pathFor Path.here one.package one.typeName ≠
        Path.here.join one.relativePath := by
  have listed : generatedTypes (scalarRegistry ".a" "a") =
      some [((".a" : Text), ("Date" : Text)), (("a" : Text), ("date" : Text))] := by
    unfold generatedTypes Registry.generate generateAll
    rw [Registry.entriesOf_eq_entries _ _ (by decide +kernel) (by decide +kernel)]
    decide +kernel
  obtain ⟨result, generated, types⟩ := exists_of_generatedTypes listed
  obtain ⟨one, others, artifacts, first, rest⟩ := List.map_eq_cons_iff.mp types
  obtain ⟨other, none, rfl, second, none⟩ := List.map_eq_cons_iff.mp rest
  obtain rfl := List.map_eq_nil_iff.mp none
  obtain ⟨package, name⟩ := Prod.mk.inj first
  obtain ⟨otherPackage, otherName⟩ := Prod.mk.inj second
  refine ⟨result, one, other, generated, artifacts, ?_, ?_, ?_⟩
  · rintro rfl
    exact absurd (package.symm.trans otherPackage) (by decide)
  · intro root
    have same : FileStore.pathFor Path.here ".a" "Date" =
        FileStore.pathFor Path.here "a" "date" := by decide +kernel
    rw [package, name, otherPackage, otherName, FileStore.pathFor_under, same,
      ← FileStore.pathFor_under]
  · unfold Artifact.relativePath Artifact.moduleName
    rw [package, name]
    decide +kernel

end SchemaForge

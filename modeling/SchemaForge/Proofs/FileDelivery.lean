import SchemaForge.Proofs.FileRefusals
import SchemaForge.Proofs.ModuleFiles
import SchemaForge.Proofs.OfferedArtifacts
import SchemaForge.Proofs.RunCompleteness

/-!
# Generation into files

A generation that writes to files goes on after every refusal of the file system: the artifact
at fault has its finding, and the others are written and listed. What stops it is an artifact
whose file or text has no bytes, because that is noticed before the file system is asked.

The files that are written are those of the artifacts, whatever comes of the generation in the
end. They lie below the root as long as no package of a type and no name of the bindings module
leads elsewhere.
-/

namespace SchemaForge

namespace FileStore

/-- The file of an artifact. -/
def fileOf (root : Path) (artifact : Artifact) : Path :=
  pathFor root artifact.package artifact.typeName

/-- An artifact is written and its file noted, or nothing but the tree has changed. -/
theorem fileSink_cases (store : FileStore) (artifact : Artifact) :
    (∃ tree, fileSink.write store artifact.package artifact.typeName artifact.text =
      ⟨{ store with tree := tree, written := store.written ++ [fileOf store.root artifact] },
        [.wrote (fileOf store.root artifact).display], .ok ()⟩) ∨
      ∃ tree fault, fileSink.write store artifact.package artifact.typeName artifact.text =
          ⟨{ store with tree := tree }, [], .error fault⟩ ∧
        (StateT.run (writeModule store.root (fileOf store.root artifact) artifact.text).run
          store.tree).1 = .error fault := by
  unfold fileOf fileSink write
  cases ran : StateT.run (writeModule store.root
      (pathFor store.root artifact.package artifact.typeName) artifact.text).run store.tree with
  | mk outcome tree =>
    simp only [ran]
    cases outcome with
    | ok done => exact .inl ⟨tree, rfl⟩
    | error fault => exact .inr ⟨tree, fault, rfl, rfl⟩

/-- An artifact whose file and text have bytes is refused, if it is not written. -/
theorem fileSink_refuses {store : FileStore} {artifact : Artifact} {fault : FileFault}
    (nameable : (fileOf store.root artifact).Nameable)
    (plain : ∀ c ∈ artifact.text, c.isSurrogate = false)
    (failed : (fileSink.write store artifact.package artifact.typeName artifact.text).outcome =
      .error fault) : fault.isRefusal = true := by
  obtain ⟨tree, stored⟩ | ⟨tree, reason, stopped, ran⟩ := fileSink_cases store artifact
  · rw [stored] at failed
    cases failed
  · rw [stopped] at failed
    obtain rfl : reason = fault := Except.error.inj failed
    exact writeModule_refuses store.root nameable plain store.tree reason ran

end FileStore

open Generation FileStore

/-- The frozen registry of the types of one text. -/
def textRegistry (text : Text) : Registry :=
  (loadedRegistry [] [("s.graphql", text)] "ns").freeze

/-- Two scalars of one package. -/
def scalarPair : Registry := textRegistry "scalar A scalar B"

/-- They are generated one behind the other. -/
theorem scalarPair_entriesOf : scalarPair.entriesOf .generation = scalarPair.entries :=
  Registry.entriesOf_eq_entries _ _ (by decide +kernel) (by decide +kernel)

/-- A store with the root `out` in a working directory, and some nodes there already. -/
def workStore (nodes : List (Location × FileNode)) : FileStore :=
  { root := Path.ofText "out", tree := ⟨(["w"], .directory) :: nodes, ["w"]⟩ }

/-! ## Files below the root -/

/-- The files that a generation has written lie below the root, as long as the artifacts it may
hand over do. -/
theorem generate_written_below {registry : Registry} {injectionModule : Option Text}
    {store : FileStore}
    (contained : ∀ artifact, Offered registry injectionModule artifact →
      Contained artifact.package artifact.typeName) :
    ∀ path ∈ (registry.generate injectionModule (some fileSink) store).sinkState.written,
      path ∈ store.written ∨ path.isBelow store.root = true := by
  let good (later : FileStore) : Prop :=
    later.root = store.root ∧
      ∀ path ∈ later.written, path ∈ store.written ∨ path.isBelow store.root = true
  have serves : Serves fileSink good
      (fun artifact => Contained artifact.package artifact.typeName) (fun _ => True) := by
    refine ⟨?_, fun _ _ _ _ => trivial⟩
    rintro state artifact ⟨root, below⟩ fits
    obtain ⟨tree, stored⟩ | ⟨tree, fault, stopped, -⟩ := fileSink_cases state artifact
    · rw [stored]
      refine ⟨root, List.forall_mem_append.mpr ⟨below, ?_⟩⟩
      rw [List.forall_mem_singleton, root]
      exact .inr (isBelow_pathFor fits store.root)
    · rw [stopped]
      exact ⟨root, below⟩
  have begins : good store := ⟨rfl, fun _ member => .inl member⟩
  exact (generate_keeps serves contained begins).2

/-- For a type of a schema, the file of its module lies below every root exactly if no part of
its package begins with a slash; otherwise it is one file whatever the root is. A generation
whose artifacts stay below its root writes no file elsewhere, however it ends. -/
theorem files_stayBelow (registry : Registry) (injectionModule : Option Text)
    (store : FileStore) :
    (∀ package typeName : Text, typeName.isName = true →
      ((∀ root, (pathFor root package typeName).isBelow root = true) ↔
        ∀ part ∈ Text.splitOn ('.' : Char) package,
          part.head? ≠ some (CodePoint.ofChar '/')) ∧
      ((∃ part ∈ Text.splitOn ('.' : Char) package,
          part.head? = some (CodePoint.ofChar '/')) →
        ∀ root, pathFor root package typeName = pathFor Path.here package typeName)) ∧
      ((∀ artifact, Offered registry injectionModule artifact →
          Contained artifact.package artifact.typeName) →
        ∀ path ∈ (registry.generate injectionModule (some fileSink) store).sinkState.written,
          path ∈ store.written ∨ path.isBelow store.root = true) := by
  refine ⟨?_, generate_written_below⟩
  intro package typeName named
  refine ⟨isBelow_pathFor_iff named package, ?_⟩
  rintro ⟨part, member, slash⟩ root
  apply pathFor_not_contained
  intro contained
  exact (contained_iff named package).mp contained part member slash

/-- The files of a type in a dotted package, and those of two scalars. -/
theorem files_stayBelow_scalars :
    (∀ root, (pathFor root "a.b" "User").isBelow root = true) ∧
      (scalarPair.generate none (some fileSink) (workStore [])).sinkState.written =
        [Path.ofText "out/ns/a.py", Path.ofText "out/ns/b.py"] ∧
      ∀ path ∈ (scalarPair.generate none (some fileSink) (workStore [])).sinkState.written,
        path ∈ (workStore []).written ∨ path.isBelow (workStore []).root = true := by
  have contained : ∀ entry ∈ scalarPair.entries,
      ∀ step ∈ steps entry.package entry.name, step.head? ≠ some (CodePoint.ofChar '/') := by
    decide +kernel
  obtain ⟨types, run⟩ := files_stayBelow scalarPair none (workStore [])
  refine ⟨(types "a.b" "User" (by decide)).1.mpr (by decide), ?_, run ?_⟩
  · unfold Registry.generate generateAll
    rw [scalarPair_entriesOf]
    decide +kernel
  · intro artifact offered
    obtain ⟨entry, member, -, text, -, rfl⟩ := offered.fromEntry
    rw [scalarPair_entriesOf] at member
    exact contained entry member

/-- A package that begins with a slash: the file of its type is not below the root, and it is
written there. -/
theorem absolutePackage_leavesRoot :
    (textRegistry "scalar A @java(package: \"/etc\")").entries.map Entry.package =
        [("/etc" : Text)] ∧
      (pathFor (Path.ofText "out") "/etc" "A").isBelow (Path.ofText "out") = false ∧
      ((textRegistry "scalar A @java(package: \"/etc\")").generate none (some fileSink)
        (workStore [])).sinkState.written = [Path.ofText "/etc/a.py"] := by
  unfold Registry.generate generateAll
  rw [Registry.entriesOf_eq_entries _ _ (by decide +kernel) (by decide +kernel)]
  decide +kernel

/-! ## Deliveries that are refused -/

/-- An artifact whose text and whose file have bytes. -/
structure Expressible (root : Path) (artifact : Artifact) : Prop where
  /-- The text holds no surrogate. -/
  text : ∀ c ∈ artifact.text, c.isSurrogate = false
  /-- The file has a name. -/
  file : (fileOf root artifact).Nameable

/-- Files are written one behind the other: an artifact that is listed adds its file, and one
that is not adds nothing. -/
theorem Generation.Emission.written {claims : List TakenModule} {artifact : Artifact}
    {location : Text} {before after : FileStore} {outcome : GenerationResult}
    (emitted : Emission (some fileSink) claims artifact location before outcome after) :
    after.root = before.root ∧
      after.written = before.written ++ outcome.artifacts.map (fileOf before.root) := by
  cases emitted with
  | clash held => exact ⟨rfl, (List.append_nil _).symm⟩
  | listed free given => cases given
  | refused free given failed =>
    obtain rfl := Option.some.inj given
    obtain ⟨tree, stored⟩ | ⟨tree, fault, stopped, -⟩ := fileSink_cases before artifact
    · rw [stored] at failed
      cases failed
    · rw [stopped]
      exact ⟨rfl, (List.append_nil _).symm⟩
  | stored free given written =>
    obtain rfl := Option.some.inj given
    obtain ⟨tree, stored⟩ | ⟨tree, fault, stopped, -⟩ := fileSink_cases before artifact
    · rw [stored]
      exact ⟨rfl, rfl⟩
    · rw [stopped] at written
      cases written

/-- The files of a run are those of its artifacts. By induction along the run. -/
theorem Generation.GenerationRun.written {registry : Registry} {earlier entries : List Entry}
    {before after : FileStore} {outcomes : List GenerationResult}
    (run : GenerationRun registry (some fileSink) earlier entries before outcomes after) :
    after.root = before.root ∧
      after.written = before.written ++ (resultOf outcomes).artifacts.map (fileOf before.root) := by
  induction run with
  | done => exact ⟨rfl, (List.append_nil _).symm⟩
  | @next _ _ _ before middle after outcome outcomes first rest inductionHypothesis =>
    obtain ⟨root, written⟩ := inductionHypothesis
    have settled : middle.root = before.root ∧
        middle.written = before.written ++ outcome.artifacts.map (fileOf before.root) := by
      cases first with
      | unresolved found some => exact ⟨rfl, (List.append_nil _).symm⟩
      | unrenderable resolved unfit failed => exact ⟨rfl, (List.append_nil _).symm⟩
      | emission reaches rendered emitted => exact emitted.written
    refine ⟨root.trans settled.1, ?_⟩
    rw [written, settled.2, settled.1, List.append_assoc, ← List.map_append]
    rfl

/-- A generation into files is accounted for: it has a result, every artifact that the file
system refuses is one finding of it, and the files that were written are those of the artifacts
that it lists, in order. It is asked that the file and the text of every artifact that may be
handed over have bytes. -/
theorem generate_deliversFiles (registry : Registry) (injectionModule : Option Text)
    (store : FileStore) (frozen : registry.frozen = true)
    (expressible : ∀ artifact, Offered registry injectionModule artifact →
      Expressible store.root artifact) :
    ∃ outcomes middle extra,
      GenerationRun registry (some fileSink) [] (registry.entriesOf .generation) store outcomes
        middle ∧
      BindingsOutcome registry injectionModule (some fileSink) (registry.entriesOf .generation)
        (resultOf outcomes).artifacts middle extra
        (registry.generate injectionModule (some fileSink) store).sinkState ∧
      (registry.generate injectionModule (some fileSink) store).outcome =
        .ok (resultBehind (resultOf outcomes) extra) ∧
      (registry.generate injectionModule (some fileSink) store).sinkState.written =
        store.written ++
          (resultBehind (resultOf outcomes) extra).artifacts.map (fileOf store.root) := by
  have serves : Serves fileSink (fun later => later.root = store.root) (Expressible store.root)
      (fun _ => False) := by
    constructor
    · intro state artifact root _
      obtain ⟨tree, stored⟩ | ⟨tree, fault, stopped, -⟩ := fileSink_cases state artifact
      · rw [stored]
        exact root
      · rw [stopped]
        exact root
    · intro state artifact fault root fits failed passed
      have nameable : (fileOf state.root artifact).Nameable := root ▸ fits.file
      have refusal := fileSink_refuses nameable fits.text failed
      exact absurd (passed.symm.trans refusal) (by decide)
  have proceeds := generate_proceeds serves expressible (rfl : store.root = store.root)
  obtain ⟨outcomes, middle, extra, run, bindings, result⟩ := generate_run_of frozen proceeds
  refine ⟨outcomes, middle, extra, run, bindings, result, ?_⟩
  obtain ⟨root, written⟩ := run.written
  change _ = store.written ++ ((resultOf outcomes).artifacts ++ extra.artifacts).map _
  rw [List.map_append, ← List.append_assoc, ← written, ← root]
  cases bindings with
  | unwanted absent => exact (List.append_nil _).symm
  | emission wanted emitted => exact emitted.written.2

/-- A store with a directory where the file of a type should be. -/
def occupiedStore : FileStore :=
  workStore [(["w", "out"], .directory), (["w", "out", "ns"], .directory),
    (["w", "out", "ns", "a.py"], .directory)]

/-- The first of two scalars is refused, which is one finding, and the second is written. -/
theorem generate_deliversFiles_occupied :
    ∃ outcomes middle result,
      GenerationRun scalarPair (some fileSink) [] (scalarPair.entriesOf .generation) occupiedStore
        outcomes middle ∧
      (scalarPair.generate none (some fileSink) occupiedStore).outcome = .ok result ∧
      result.artifacts.map Artifact.typeName = [("B" : Text)] ∧
      result.diagnostics.map Diagnostic.code = [("APG006" : Text)] ∧
      (scalarPair.generate none (some fileSink) occupiedStore).sinkState.written =
        result.artifacts.map (fileOf occupiedStore.root) := by
  have texts : ∀ entry ∈ scalarPair.entries, ∀ text ∈ (textOf scalarPair entry).toOption,
      ∀ c ∈ text, c.isSurrogate = false := by
    decide +kernel
  have files : ∀ entry ∈ scalarPair.entries,
      (pathFor occupiedStore.root entry.package entry.name).root = [] ∧
        ∀ part ∈ (pathFor occupiedStore.root entry.package entry.name).parts, ∀ c ∈ part,
          0 < c.val ∧ c.val < 0x80 := by
    decide +kernel
  have expressible : ∀ artifact, Offered scalarPair none artifact →
      Expressible occupiedStore.root artifact := by
    intro artifact offered
    obtain ⟨entry, member, -, text, rendered, rfl⟩ := offered.fromEntry
    rw [scalarPair_entriesOf] at member
    obtain ⟨root, parts⟩ := files entry member
    refine ⟨texts entry member text (by rw [rendered]; rfl), ?_, ?_⟩
    · intro c inside
      exact absurd (root ▸ inside) List.not_mem_nil
    · intro part listed c inside
      exact CodePoint.nameable_of_ascii (parts part listed c inside)
  obtain ⟨outcomes, middle, extra, run, -, result, written⟩ :=
    generate_deliversFiles scalarPair none occupiedStore rfl expressible
  have facts : (scalarPair.generate none (some fileSink) occupiedStore).outcome.toOption.map
      (fun result =>
        (result.artifacts.map Artifact.typeName, result.diagnostics.map Diagnostic.code)) =
      some ([("B" : Text)], [("APG006" : Text)]) := by
    unfold Registry.generate generateAll
    rw [scalarPair_entriesOf]
    decide +kernel
  rw [result] at facts
  obtain ⟨artifacts, diagnostics⟩ := Prod.mk.inj (Option.some.inj facts)
  exact ⟨outcomes, middle, _, run, result, artifacts, diagnostics, written⟩

/-- The fault of a file that stopped a generation. -/
def Generated.fault? {σ : Type} (generated : Generated σ) : Option FileFault :=
  match generated.outcome with
  | .error (.file fault) => some fault
  | _ => none

/-- A surrogate in the description of a type: the generation is stopped, and the scalar behind
it is not written. -/
theorem surrogateDescription_stops :
    (textRegistry "\"\\ud800\" type A { id: ID } scalar B").entries.map Entry.name =
        [("A" : Text), ("B" : Text)] ∧
      ((textRegistry "\"\\ud800\" type A { id: ID } scalar B").generate none (some fileSink)
        (workStore [])).fault? = some (.unencodable ⟨268, 1, CodePoint.ofNat 0xD800⟩) ∧
      ((textRegistry "\"\\ud800\" type A { id: ID } scalar B").generate none (some fileSink)
        (workStore [])).sinkState.written = [] := by
  unfold Registry.generate generateAll
  rw [Registry.entriesOf_eq_entries _ _ (by decide +kernel) (by decide +kernel)]
  decide +kernel

end SchemaForge

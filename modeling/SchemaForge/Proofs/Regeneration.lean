import SchemaForge.Proofs.RepeatedGeneration
import SchemaForge.Proofs.SchemaLoading

/-!
# Running again

A run loads schemas, generates modules and hands its schemas on. Run once more on the files it has
left, it finds the same schemas, because modules and markers are no schemas and the copies lie
elsewhere; so it generates the same modules, writes the same bytes to the same files and makes the
same copies. Nothing changes, and the result is the same up to which path is said to have a name
that is too long.

Double dots are left out, because what they lead to may come into being during the run. So are
references with a part that is too long: a question about such a path has an answer only as long as
a directory on the way is missing.
-/

namespace SchemaForge

open FileTree (Changes Unlisted)
open SchemaFile

/-! ## Actions that give a value -/

/-- An action that gives a value does so in two steps. -/
theorem Action.bind_gives {α β : Type} {first : Action α} {next : α → Action β} {value : β}
    {workspace : Workspace} {after : FileTree}
    (gives : (first >>= next).Gives workspace (.ok value) after) :
    ∃ given middle log, first.Gives workspace (.ok given) middle ∧
      (next given).Gives ⟨middle, log⟩ (.ok value) after := by
  obtain ⟨last, ran⟩ := gives
  rw [run_bind] at ran
  generalize ranFirst : StateT.run first.run workspace = answer at ran
  obtain ⟨outcome, middle, log⟩ := answer
  cases outcome with
  | error failure => cases (Prod.mk.inj ran).1
  | ok given => exact ⟨given, middle, log, ⟨log, ranFirst⟩, last, ran⟩

variable {config : Config} {start middle after : FileTree} {workspace : Workspace}

/-! ## Handing schemas on -/

/-- A configuration whose paths have no double dots, whose references have no part that is too
long, and whose schemas are handed on neither below the source directory nor where a reference is
looked up. -/
structure Config.Apart (config : Config) (tree : FileTree) : Prop where
  /-- The root of the modules has no double dots. -/
  output : (".." : Text) ∉ config.outputDirectory.parts
  /-- Neither has the root that schemas are handed on in. -/
  publish : ∀ root, config.publishDirectory = some root → (".." : Text) ∉ root.parts
  /-- Nor has a reference. -/
  references : ∀ path ∈ config.references, (".." : Text) ∉ path.parts
  /-- No part of a reference is too long. -/
  short : ∀ path ∈ config.references, ∀ part ∈ path.parts, FileTree.isTooLong part = false
  /-- Schemas are not handed on below the source directory. -/
  outside : ∀ root, config.publishDirectory = some root →
    ¬ tree.destination config.sourceDirectory <+: tree.destination (exchange root)
  /-- They are not handed on where a reference is looked up. -/
  elsewhere : ∀ root, config.publishDirectory = some root → ∀ path ∈ config.references,
    tree.destination (exchange path) ≠ tree.destination (exchange root)

/-- The schemas of a directory that are kept can be copied as they were. -/
theorem SchemaFile.sourced_kept {base : Path} {directory : Location} {files : List SchemaFile}
    (wellFormed : start.WellFormed) (named : start.Named)
    (kept : Kept (start.destination base) none start after)
    (listed : found base start = .ok files) (outside : ¬ start.destination base <+: directory) :
    ∀ file ∈ files, Sourced after directory (contentIn start) file := by
  intro file member
  obtain ⟨parts, bytes, some, names, rfl, holds, still⟩ :=
    holds_kept wellFormed named kept listed member
  exact sourced_of_holds some names ((contentIn_of_holds holds).symm ▸ still) outside

/-- Nothing is handed on, if no root is given. -/
theorem publishFor_none (given : config.publishDirectory = none) (log : List LogEvent) :
    (publishFor config).Gives ⟨start, log⟩ (.ok ()) start := by
  unfold publishFor
  rw [given]
  exact Action.gives_pure () _

/-- Schemas are handed on, if they can be copied. -/
theorem publishFor_done {root : Path} {files : List SchemaFile}
    (given : config.publishDirectory = some root)
    (listed : found config.sourceDirectory start = .ok files)
    (ran : (copyAll (exchange root) files).on start = (.ok (), after)) (log : List LogEvent) :
    (publishFor config).Gives ⟨start, log⟩ (.ok ()) after := by
  have published : (publish config.sourceDirectory root).Gives ⟨start, log⟩ _ after :=
    publish_done listed ran
  unfold publishFor
  rw [given]
  exact Action.gives_bind published fun log => Action.tell_gives _ _

/-- Schemas that have been handed on are handed on again as they were, as long as they are kept. -/
theorem publishFor_repeats {log : List LogEvent} (wellFormed : start.WellFormed)
    (named : start.Named) (apart : config.Apart start)
    (isDirectory : start.isDirectory config.sourceDirectory = .ok true)
    (kept : Kept (start.destination config.sourceDirectory) none start middle)
    (gives : (publishFor config).Gives ⟨middle, log⟩ (.ok ()) after) :
    ∃ writes, Changes Unlisted writes middle after ∧
      (∀ write ∈ writes, isSchemaPath ⟨[], write.1⟩ = true ∧
        ∃ root name, config.publishDirectory = some root ∧
          write.1 = start.destination (exchange root) ++ [name]) ∧
      (Kept (start.destination config.sourceDirectory) none start after →
        ∀ log, (publishFor config).Gives ⟨after, log⟩ (.ok ()) after) := by
  cases given : config.publishDirectory with
  | none =>
    obtain ⟨-, rfl⟩ := gives.unique (publishFor_none given log)
    exact ⟨[], .refl kept.wellFormed, by simp, fun _ => publishFor_none given⟩
  | some root =>
    unfold publishFor at gives
    rw [given] at gives
    obtain ⟨written, final, log, published, told⟩ := Action.bind_gives gives
    obtain ⟨-, rfl⟩ := told.unique (Action.tell_gives _ _)
    obtain ⟨files, foundThere, rfl, ran⟩ := publish_ok published
    have listed : found config.sourceDirectory start = .ok files :=
      (listing_there wellFormed kept isDirectory).2.symm.trans foundThere
    have ends {later : FileTree} (growth : start.Extends later) :
        later.destination (exchange root) = start.destination (exchange root) := by
      rw [FileTree.destination, FileTree.destination, growth.start]
    have dots := dotsResolved_exchange
      (FileTree.dotsResolved_of_dotless middle (apart.publish root given))
    have outside := apart.outside root given
    obtain ⟨known, changes, there⟩ := copyAll_ok kept.wellFormed dots (ends kept.growth)
      (sourced_kept wellFormed named kept listed outside) ran
    refine ⟨_, changes.mono fun _ _ way => .inl way.1, ?_, ?_⟩
    · intro write member
      obtain ⟨file, inside, rfl⟩ := List.mem_map.mp member
      refine ⟨?_, root, file.path.name, rfl, rfl⟩
      obtain ⟨parts, -, some, -, rfl, schema, -, -⟩ := mem_listing wellFormed named listed inside
      rw [copied, isSchemaPath_below _ (List.cons_ne_nil _ _), isSchemaPath_name some, schema]
    · intro still log
      have foundAgain : found config.sourceDirectory final = .ok files :=
        (listing_there wellFormed still isDirectory).2.trans listed
      have copiedAgain := copyAll_again (sourced_kept wellFormed named still listed outside) known
        (by rwa [changes.growth.start]) changes.hasFiles
      rw [changes.overwrite] at copiedAgain
      exact publishFor_done given foundAgain copiedAgain log

/-! ## Runs -/

/-- The session that a run starts from. -/
def Config.session (config : Config) : Session :=
  Session.start config.defaultPackage config.injectionModule

/-- Without a source directory a run does nothing. -/
theorem run_nothing {session : Session}
    (loaded : config.session.loaded config workspace.tree = .ok (session, false)) :
    (run config).Gives workspace (.ok {}) workspace.tree := by
  have load := config.session.load_asks config workspace
  rw [loaded] at load
  have files : (runToFiles config config.outputDirectory).Gives workspace (.ok ([], {}))
      workspace.tree :=
    Action.gives_bind load fun log =>
      Action.gives_bind (Action.tell_gives _ _) fun log => Action.gives_pure _ _
  exact Action.gives_bind files fun log => Action.gives_pure _ _

/-- What is loaded is generated and handed on. -/
theorem run_done {session : Session} {result : GenerationResult}
    (loaded : config.session.loaded config workspace.tree = .ok (session, true))
    (generated : (session.generate (some fileSink)
      ⟨config.outputDirectory, workspace.tree, []⟩).outcome = .ok result)
    (published : ∀ log, (publishFor config).Gives ⟨(session.generate (some fileSink)
      ⟨config.outputDirectory, workspace.tree, []⟩).sinkState.tree, log⟩ (.ok ()) after) :
    (run config).Gives workspace (.ok result) after := by
  have load := config.session.load_asks config workspace
  rw [loaded] at load
  have files : (runToFiles config config.outputDirectory).Gives workspace
      (.ok ((session.generate (some fileSink)
        ⟨config.outputDirectory, workspace.tree, []⟩).sinkState.written, result)) after := by
    refine Action.gives_bind load fun log => ?_
    have generation := session.generateFiles_gives config.outputDirectory [] ⟨workspace.tree, log⟩
    dsimp only at generation
    rw [generated] at generation
    refine Action.gives_bind generation fun log => ?_
    exact Action.gives_bind (published log) fun log => Action.gives_pure _ _
  exact Action.gives_bind files fun log => Action.gives_pure _ _

/-- A run that gives a result has done one of these. -/
theorem run_cases {result : GenerationResult}
    (gives : (run config).Gives workspace (.ok result) after) :
    (∃ session, config.session.loaded config workspace.tree = .ok (session, false) ∧
      result = {} ∧ after = workspace.tree) ∨
    ∃ session log, config.session.loaded config workspace.tree = .ok (session, true) ∧
      (session.generate (some fileSink)
        ⟨config.outputDirectory, workspace.tree, []⟩).outcome = .ok result ∧
      (publishFor config).Gives ⟨(session.generate (some fileSink)
        ⟨config.outputDirectory, workspace.tree, []⟩).sinkState.tree, log⟩ (.ok ()) after := by
  obtain ⟨⟨paths, _⟩, final, log, ran, last⟩ := Action.bind_gives gives
  obtain ⟨same, rfl⟩ := last.unique (Action.gives_pure _ _)
  obtain rfl := Except.ok.inj same
  obtain ⟨⟨session, added⟩, tree, log, load, rest⟩ := Action.bind_gives ran
  obtain ⟨loaded, rfl⟩ := (config.session.load_asks config workspace).unique load
  cases added with
  | false =>
    obtain ⟨_, _, log, told, pure⟩ := Action.bind_gives rest
    obtain ⟨-, rfl⟩ := told.unique (Action.tell_gives _ _)
    obtain ⟨nothing, rfl⟩ := pure.unique (Action.gives_pure _ _)
    exact .inl ⟨session, loaded.symm, (Prod.mk.inj (Except.ok.inj nothing)).2.symm, rfl⟩
  | true =>
    obtain ⟨given, middle, log, generated, rest⟩ := Action.bind_gives rest
    obtain ⟨answer, rfl⟩ := generated.unique (session.generateFiles_gives _ _ _)
    obtain ⟨⟨⟩, final, last, published, rest⟩ := Action.bind_gives rest
    obtain ⟨same, rfl⟩ := rest.unique (Action.gives_pure _ _)
    obtain rfl := Except.ok.inj same
    obtain ⟨result, outcome, made⟩ := Except.map_eq_ok.mp answer
    obtain ⟨-, rfl⟩ := Prod.mk.inj made
    exact .inr ⟨session, log, loaded.symm, outcome, published⟩

/-- Something is loaded only from a source directory that is there. -/
theorem Session.isDirectory_of_loaded {session next : Session}
    (loaded : session.loaded config start = .ok (next, true)) :
    start.isDirectory config.sourceDirectory = .ok true := by
  obtain ⟨isDirectory, asked, rest⟩ := Except.bind_eq_ok.mp loaded
  cases isDirectory with
  | false => cases rest
  | true => exact Except.mapError_eq_ok.mp asked

/-- The tree is one of the same schemas, where a run looks for them, if modules and markers have
been added and copies have been made elsewhere. -/
theorem Config.Apart.kept {writes copies : Writes} (apart : config.Apart start)
    (changes : Changes Unlisted (writes ++ copies) start after)
    (unlisted : ∀ write ∈ writes, isSchemaPath ⟨[], write.1⟩ = false)
    (places : ∀ write ∈ copies, ∃ root name, config.publishDirectory = some root ∧
      write.1 = start.destination (exchange root) ++ [name]) :
    Kept (start.destination config.sourceDirectory) none start after ∧
      ∀ path ∈ config.references,
        Kept (start.destination (exchange path)) (some 1) start after := by
  have notModule {write : Location × List UInt8} (member : write ∈ writes) {directory : Location}
      {parts : List Text} (given : parts ≠ []) (schema : isSchemaPath ⟨[], parts⟩ = true) :
      write.1 ≠ directory ++ parts := by
    intro here
    have other := unlisted write member
    rw [here, isSchemaPath_below directory given, schema] at other
    cases other
  constructor
  · refine .of_changes changes (List.forall_mem_append.mpr ⟨?_, ?_⟩)
    · intro write member parts given schema _
      exact notModule member given schema
    · rintro write member parts given - - here
      obtain ⟨root, name, handsOn, place⟩ := places write member
      obtain ⟨front, last, rfl⟩ : ∃ front last, parts = front ++ [last] :=
        ⟨_, _, (List.dropLast_append_getLast given).symm⟩
      rw [place, ← List.append_assoc] at here
      obtain ⟨same, -⟩ := List.append_inj' here rfl
      exact apart.outside root handsOn ⟨front, same.symm⟩
  · intro path reference
    refine .of_changes changes (List.forall_mem_append.mpr ⟨?_, ?_⟩)
    · intro write member parts given schema _
      exact notModule member given schema
    · rintro write member parts given - shallow here
      obtain ⟨root, name, handsOn, place⟩ := places write member
      have single : parts.length = 1 :=
        Nat.le_antisymm (by simpa using shallow) (List.length_pos_iff.mpr given)
      obtain ⟨last, rfl⟩ := List.length_eq_one_iff.mp single
      rw [place] at here
      obtain ⟨same, -⟩ := List.append_inj' here rfl
      exact apart.elsewhere root handsOn path reference same.symm

/-- A run that gives a result can be run again on the files it has left: it gives the same result,
up to which path is said to have a name that is too long, and every file and directory stays as it
is. Where no name is too long, the result is the same altogether. -/
theorem run_again {result : GenerationResult} (wellFormed : workspace.tree.WellFormed)
    (named : workspace.tree.Named) (apart : config.Apart workspace.tree)
    (gives : (run config).Gives workspace (.ok result) after) (log : List LogEvent) :
    ∃ again, (run config).Gives ⟨after, log⟩ (.ok again) after ∧ SameResult result again ∧
      ((∀ rule artifact display, Generation.writeDiagnostic rule artifact (.nameTooLong display) ∉
        result.diagnostics) → again = result) := by
  obtain ⟨session, loaded, rfl, rfl⟩ | ⟨session, last, loaded, generated, published⟩ :=
    run_cases gives
  · exact ⟨{}, run_nothing loaded, ⟨rfl, .nil⟩, fun _ => rfl⟩
  · have dotless : ∀ entry ∈ session.registry.entries, CodePoint.ofChar '.' ∉ entry.name :=
      fun entry member => Text.dotless_of_isName
        (Session.loaded_spelled (by simp [Registry.Spelled, Config.session, Session.start]) loaded
          entry member)
    have isDirectory := Session.isDirectory_of_loaded loaded
    obtain ⟨writes, changes, unlisted, again⟩ :=
      Session.generate_repeats ⟨config.outputDirectory, workspace.tree, []⟩ wellFormed
        apart.output dotless generated
    have modules := changes.trans (.refl changes.wellFormed)
    obtain ⟨keptByModules, -⟩ := apart.kept modules unlisted (by simp)
    obtain ⟨copies, more, copied, publishAgain⟩ :=
      publishFor_repeats wellFormed named apart isDirectory keptByModules published
    obtain ⟨keptSource, keptReferences⟩ := apart.kept (changes.trans more) unlisted
      fun write member => (copied write member).2
    have loadedAgain := Session.loaded_kept wellFormed named keptSource apart.references apart.short
      keptReferences loaded
    obtain ⟨resultAgain, outcome, tree, same⟩ :=
      again ⟨config.outputDirectory, after, []⟩ rfl more.growth
    -- The copies are schemas and the modules are none, so the modules are as they were written.
    have rewritten : after.overwrite writes = after := by
      refine FileTree.overwrite_last more.wellFormed ?_
      intro location bytes final
      refine more.kept ?_ (changes.written location bytes final).1
      rw [Writes.last?_eq_none]
      rintro copy member rfl
      have schema := (copied copy member).1
      have plain := unlisted _ (Writes.mem_of_last? final)
      rw [schema] at plain
      cases plain
    refine ⟨resultAgain, run_done loadedAgain outcome ?_, same, same.eq⟩
    intro log
    rw [tree]
    change (publishFor config).Gives ⟨after.overwrite writes, log⟩ (.ok ()) after
    rw [rewritten]
    exact publishAgain keptSource log

/-! ## Runs for one schema -/

/-- The bytes of a text in ASCII. -/
def bytesOf (text : Text) : List UInt8 := text.map (fun c => UInt8.ofNat c.val)

/-- A schema in a source directory, and some nodes besides. -/
def sourceTree (text : Text) (nodes : List (Location × FileNode)) : FileTree :=
  ⟨(["w"], .directory) :: (["w", "s"], .directory) ::
    (["w", "s", "a.graphql"], .file (bytesOf text)) :: nodes, ["w"]⟩

/-- The schema. -/
def sourceFile : SchemaFile := ⟨Path.ofText "s/a.graphql", "a.graphql"⟩

/-- A configuration for it. -/
def sourceConfig (references : List Path) (root : Option Path) : Config :=
  { sourceDirectory := Path.ofText "s", outputDirectory := Path.ofText "out",
    defaultPackage := "ns", referencePaths := references, publishDirectory := root }

/-- The schema is the only one in its directory. -/
def OneSource (tree : FileTree) : Prop :=
  tree.locate (Path.ofText "s") = .ok ["w", "s"] ∧ tree.find? ["w", "s"] = some .directory ∧
    (tree.filesBelow ["w", "s"]).filter (fun parts => isSchemaPath ⟨[], parts⟩ &&
      (none : Option Nat).all (fun bound => parts.length ≤ bound)) = [[("a.graphql" : Text)]]

/-- Whether it is can be decided. -/
instance (tree : FileTree) : Decidable (OneSource tree) := inferInstanceAs (Decidable (_ ∧ _ ∧ _))

/-- So it is what is found. -/
theorem OneSource.found (one : OneSource start) :
    SchemaFile.found (Path.ofText "s") start = .ok [sourceFile] := by
  obtain ⟨located, isDirectory, only⟩ := one
  unfold SchemaFile.found listing
  rw [isDirectory_of_locate located, isDirectory, below_of_sorted located (by rw [only]; simp), only]
  rfl

variable {references : List Path} {root : Option Path}

/-- The session with the schema. -/
def sourceSession (config : Config) (tree : FileTree) : Session :=
  (config.session.withFiles .generation [sourceFile] tree).toOption.getD config.session

/-- The schema can be read, and the references lead to no others. -/
def Readable (config : Config) (tree : FileTree) : Prop :=
  OneSource tree ∧
    foundPublishedAll (config.referencePaths.map Path.display) tree =
      .ok (config.referencePaths.map (fun _ => [])) ∧
    (config.session.withFiles .generation [sourceFile] tree).isOk = true

/-- Whether they do can be decided. -/
instance (config : Config) (tree : FileTree) : Decidable (Readable config tree) :=
  inferInstanceAs (Decidable (_ ∧ _ ∧ _))

/-- So the schema is loaded. -/
theorem Readable.loaded (readable : Readable (sourceConfig references root) start) :
    (sourceConfig references root).session.loaded (sourceConfig references root) start =
      .ok (sourceSession (sourceConfig references root) start, true) := by
  obtain ⟨one, searched, read⟩ := readable
  have asked : start.isDirectory (Path.ofText "s") = .ok true := by
    rw [isDirectory_of_locate one.1, one.2.1]
    rfl
  have flat : ((sourceConfig references root).referencePaths.map
      (fun _ => ([] : List SchemaFile))).flatten = [] := by simp
  refine Except.bind_eq_ok.mpr ⟨true, Except.mapError_eq_ok.mpr asked, ?_⟩
  refine Except.bind_eq_ok.mpr ⟨[], by rw [searched, Except.map, flat]; rfl, ?_⟩
  refine Except.bind_eq_ok.mpr ⟨_, rfl, Except.bind_eq_ok.mpr ⟨[sourceFile],
    Except.mapError_eq_ok.mpr one.found, ?_⟩⟩
  unfold sourceSession
  generalize (sourceConfig references root).session.withFiles .generation [sourceFile] start =
    answer at read ⊢
  cases answer with
  | error failure => cases read
  | ok session => rfl

/-- The generation of the schema into files. -/
def sourceGenerated (config : Config) (tree : FileTree) : Generated FileStore :=
  (sourceSession config tree).generate (some fileSink) ⟨config.outputDirectory, tree, []⟩

/-- What it says: the types of the artifacts and the messages of the findings. -/
def sourceReport (result : GenerationResult) : List Text × List Text :=
  (result.artifacts.map Artifact.typeName, result.diagnostics.map Diagnostic.message)

/-- What comes of a run for the schema. -/
theorem run_source {report : List Text × List Text}
    (readable : Readable (sourceConfig references root) start)
    (generated : (sourceGenerated (sourceConfig references root) start).outcome.toOption.map
        sourceReport = some report ∧
      (sourceGenerated (sourceConfig references root) start).sinkState.tree = middle)
    (published : ∀ log, (publishFor (sourceConfig references root)).Gives ⟨middle, log⟩ (.ok ())
      after) (log : List LogEvent) :
    ∃ result, (run (sourceConfig references root)).Gives ⟨start, log⟩ (.ok result) after ∧
      sourceReport result = report := by
  obtain ⟨given, rfl⟩ := generated
  obtain ⟨result, outcome, said⟩ := Option.map_eq_some_iff.mp given
  refine ⟨result, run_done readable.loaded ?_ published, said⟩
  change (sourceGenerated (sourceConfig references root) start).outcome = .ok result
  cases answer : (sourceGenerated (sourceConfig references root) start).outcome with
  | error failure =>
    rw [answer] at outcome
    cases outcome
  | ok same =>
    rw [answer] at outcome
    rw [Option.some.inj outcome]

/-- A marker with a content of its own, a reference that leads nowhere and a root to hand on in. -/
def markedConfig : Config := sourceConfig [Path.ofText "r"] (some (Path.ofText "p"))

/-- The files before the run. -/
def markedTree : FileTree :=
  sourceTree "scalar A" [(["w", "out"], .directory), (["w", "out", "ns"], .directory),
    (["w", "out", "ns", "__init__.py"], .file (bytesOf "#"))]

/-- The module of the scalar. -/
def scalarModule : Text :=
  Text.join "\n" ["# Generated by apigen from a.graphql:[1, 1]. Do not edit.", [],
    "\"\"\"Generated module for scalar ``A``.\"\"\"", [], "from __future__ import annotations", [],
    "from typing import NewType", [], [], "A = NewType('A', object)", []]

/-- The files when the module has been written. -/
def markedTreeGenerated : FileTree :=
  markedTree.put ["w", "out", "ns", "a.py"] (.file (bytesOf scalarModule))

/-- The files when the schema has been handed on too. -/
def markedTreeAfter : FileTree :=
  ((markedTreeGenerated.put ["w", "p"] .directory).put
    ["w", "p", "graphql-apigen-schema"] .directory).put
    ["w", "p", "graphql-apigen-schema", "a.graphql"] (.file (bytesOf "scalar A"))

/-- The module is written beside the marker, which keeps its content, and the schema is handed on.
After another run all is as it was. -/
theorem run_again_marked :
    ∃ result, (run markedConfig).Gives ⟨markedTree, []⟩ (.ok result) markedTreeAfter ∧
      result.artifacts.map Artifact.typeName = [("A" : Text)] ∧
      (run markedConfig).Gives ⟨markedTreeAfter, []⟩ (.ok result) markedTreeAfter := by
  have generated : (sourceGenerated markedConfig markedTree).outcome.toOption.map sourceReport =
        some ([("A" : Text)], []) ∧
      (sourceGenerated markedConfig markedTree).sinkState.tree = markedTreeGenerated := by
    unfold sourceGenerated Session.generate Registry.generate Generation.generateAll
    rw [Registry.entriesOf_eq_entries _ _ (by decide +kernel) (by decide +kernel)]
    decide +kernel
  have one : OneSource markedTreeGenerated := by decide +kernel
  have apart : markedConfig.Apart markedTree := by
    refine ⟨by decide +kernel, ?_, by decide +kernel, by decide +kernel, ?_, ?_⟩
    · rintro root ⟨⟩
      decide +kernel
    · rintro root ⟨⟩
      decide +kernel
    · rintro root ⟨⟩
      decide +kernel
  have copied : (copyAll (exchange (Path.ofText "p")) [sourceFile]).on markedTreeGenerated =
      (.ok (), markedTreeAfter) := by
    decide +kernel
  obtain ⟨result, ran, said⟩ := run_source (by decide +kernel) generated
    (publishFor_done rfl one.found copied) []
  obtain ⟨artifacts, messages⟩ := Prod.mk.inj said
  obtain ⟨again, ranAgain, -, same⟩ := run_again (by decide +kernel)
    (by decide +kernel) apart ran []
  have quiet : result.diagnostics = [] := List.map_eq_nil_iff.mp messages
  obtain rfl := same (by simp [quiet])
  exact ⟨_, ran, artifacts, ranAgain⟩

/-! ## Names that are too long -/

/-- A name that is too long. -/
def longName : Text := List.replicate 256 (CodePoint.ofChar 'L')

/-- A configuration that names nothing but the source directory and the root of the modules. -/
def plainConfig : Config := sourceConfig [] none

/-- A scalar in a package whose first part is too long. -/
def longTree : FileTree := sourceTree ("scalar A @java(package: \"" ++ longName ++ ".x\")") []

/-- The files when its module has been refused: the root has been made. -/
def longTreeAfter : FileTree := longTree.put ["w", "out"] .directory

/-- The message that the name is too long, with what is said behind it. -/
def tooLong (rest : Text) : Text :=
  Text.concat ["Could not write ", longName, ".x.a: [Errno 36] File name too long: 'out/",
    longName, rest, "'"]

/-- The first run has yet to make the root, and says that the name is too long where it comes to
it. -/
theorem longTree_generated :
    (sourceGenerated plainConfig longTree).outcome.toOption.map sourceReport =
        some ([], [tooLong []]) ∧
      (sourceGenerated plainConfig longTree).sinkState.tree = longTreeAfter := by
  unfold sourceGenerated Session.generate Registry.generate Generation.generateAll
  rw [Registry.entriesOf_eq_entries _ _ (by decide +kernel) (by decide +kernel)]
  decide +kernel

/-- The second says so where it asks first, one part further. -/
theorem longTreeAfter_generated :
    (sourceGenerated plainConfig longTreeAfter).outcome.toOption.map sourceReport =
        some ([], [tooLong "/x"]) ∧
      (sourceGenerated plainConfig longTreeAfter).sinkState.tree = longTreeAfter := by
  unfold sourceGenerated Session.generate Registry.generate Generation.generateAll
  rw [Registry.entriesOf_eq_entries _ _ (by decide +kernel) (by decide +kernel)]
  decide +kernel

/-- A reference that ends in such a name, below the root of the modules. -/
def longReference : Config := sourceConfig [Path.ofText ("out/" ++ longName)] none

/-- A scalar without a package. -/
def scalarTree : FileTree := sourceTree "scalar A" []

/-- The files with its module. -/
def scalarTreeAfter : FileTree :=
  (((scalarTree.put ["w", "out"] .directory).put ["w", "out", "ns"] .directory).put
    ["w", "out", "ns", "__init__.py"] (.file [])).put ["w", "out", "ns", "a.py"]
      (.file (bytesOf scalarModule))

/-- The reference does not matter to the generation. -/
theorem scalarTree_generated :
    (sourceGenerated longReference scalarTree).outcome.toOption.map sourceReport =
        some ([("A" : Text)], []) ∧
      (sourceGenerated longReference scalarTree).sinkState.tree = scalarTreeAfter := by
  unfold sourceGenerated Session.generate Registry.generate Generation.generateAll
  rw [Registry.entriesOf_eq_entries _ _ (by decide +kernel) (by decide +kernel)]
  decide +kernel

/-- Loading fails with the search of the references. -/
theorem Session.loaded_refused {session : Session} {fault : FileFault}
    (asked : start.isDirectory config.sourceDirectory = .ok true)
    (searched : foundPublishedAll (config.referencePaths.map Path.display) start = .error fault) :
    session.loaded config start = .error (.file fault) := by
  unfold loaded
  rw [asked, searched]
  rfl

/-- A run that fails to load has failed. -/
theorem run_failed {failure : Failure}
    (loaded : config.session.loaded config workspace.tree = .error failure) :
    (run config).Gives workspace (.error failure) workspace.tree := by
  have load := config.session.load_asks config workspace
  rw [loaded] at load
  exact Action.gives_bind_error (Action.gives_bind_error load)

/-- Where a name is too long, a second run may say so of another path than the first; and where it
is the name of a reference, the first run may not come to it, and the second is refused. -/
theorem longName_runsDiffer :
    (longTree.WellFormed ∧ longTree.Named ∧ plainConfig.Apart longTree ∧
      ∃ first second, (run plainConfig).Gives ⟨longTree, []⟩ (.ok first) longTreeAfter ∧
        (run plainConfig).Gives ⟨longTreeAfter, []⟩ (.ok second) longTreeAfter ∧
        first.diagnostics.map Diagnostic.message = [tooLong []] ∧
        second.diagnostics.map Diagnostic.message = [tooLong "/x"] ∧ second ≠ first) ∧
    scalarTree.WellFormed ∧ scalarTree.Named ∧
      (∀ path ∈ longReference.references, (".." : Text) ∉ path.parts) ∧
      (∃ result, (run longReference).Gives ⟨scalarTree, []⟩ (.ok result) scalarTreeAfter) ∧
      (run longReference).Gives ⟨scalarTreeAfter, []⟩
        (.error (.file (.nameTooLong (Text.concat ["out/", longName, "/", exchangeDirectory]))))
        scalarTreeAfter := by
  constructor
  · obtain ⟨first, ran, said⟩ :=
      run_source (by decide +kernel) longTree_generated (publishFor_none rfl) []
    obtain ⟨second, ranAgain, saidAgain⟩ :=
      run_source (by decide +kernel) longTreeAfter_generated (publishFor_none rfl) []
    have message : first.diagnostics.map Diagnostic.message = _ := (Prod.mk.inj said).2
    have messageAgain : second.diagnostics.map Diagnostic.message = _ := (Prod.mk.inj saidAgain).2
    refine ⟨by decide +kernel, by decide +kernel, ?_, first, second, ran, ranAgain, message,
      messageAgain, ?_⟩
    · refine ⟨by decide +kernel, ?_, by decide +kernel, by decide +kernel, ?_, ?_⟩ <;>
        rintro root ⟨⟩
    · rintro rfl
      have apart : [tooLong "/x"] ≠ [tooLong []] := by decide +kernel
      exact apart (messageAgain.symm.trans message)
  · obtain ⟨result, ran, -⟩ :=
      run_source (by decide +kernel) scalarTree_generated (publishFor_none rfl) []
    refine ⟨by decide +kernel, by decide +kernel, by decide +kernel, ⟨result, ran⟩, run_failed ?_⟩
    exact Session.loaded_refused (by decide +kernel) (by decide +kernel)

end SchemaForge

import SchemaForge.Proofs.FileDelivery
import SchemaForge.Proofs.RepeatedWrites

/-!
# Generating again

A generation goes from entry to entry, and all it keeps of the files is what comes of each
delivery. So once deliveries can be repeated, a whole generation can: run once more on the files it
has left, or on any that extend them, it lists the same artifacts, makes the same findings and
writes the same bytes.

The second run is followed step by step beside the first. Its state has the same modules taken and
the same result so far, up to which path is said to have a name that is too long, and its files are
those it started from with everything written so far written once more.
-/

namespace SchemaForge

open FileTree (Alike Changes Extends)

/-! ## Results -/

/-- The same finding, up to which path is said to have a name that is too long. -/
inductive SameFinding : Diagnostic → Diagnostic → Prop where
  | same (finding : Diagnostic) : SameFinding finding finding
  | long (rule : Text) (artifact : Artifact) (display other : Text) :
      SameFinding (Generation.writeDiagnostic rule artifact (.nameTooLong display))
        (Generation.writeDiagnostic rule artifact (.nameTooLong other))

/-- The same artifacts, and the same findings one by one. -/
structure SameResult (result other : GenerationResult) : Prop where
  /-- The artifacts are the same. -/
  artifacts : other.artifacts = result.artifacts
  /-- The findings are the same, one by one. -/
  diagnostics : List.Forall₂ SameFinding result.diagnostics other.diagnostics

namespace SameResult

variable {result other : GenerationResult}

/-- Findings are the same as themselves. -/
theorem refl_findings (findings : List Diagnostic) : List.Forall₂ SameFinding findings findings :=
  List.forall₂_same.mpr fun finding _ => .same finding

/-- More findings behind the same ones. -/
theorem report (same : SameResult result other) {findings others : List Diagnostic}
    (more : List.Forall₂ SameFinding findings others) :
    SameResult { result with diagnostics := result.diagnostics ++ findings }
      { other with diagnostics := other.diagnostics ++ others } :=
  ⟨same.artifacts, List.rel_append same.diagnostics more⟩

/-- One more artifact behind the same ones. -/
theorem list (same : SameResult result other) (artifact : Artifact) :
    SameResult { result with artifacts := result.artifacts ++ [artifact] }
      { other with artifacts := other.artifacts ++ [artifact] } := by
  refine ⟨?_, same.diagnostics⟩
  dsimp only
  rw [same.artifacts]

/-- Where no name is too long, the result is the same altogether. -/
theorem eq (same : SameResult result other)
    (short : ∀ rule artifact display,
      Generation.writeDiagnostic rule artifact (.nameTooLong display) ∉ result.diagnostics) :
    other = result := by
  obtain ⟨artifacts, findings⟩ := result
  obtain ⟨artifactsOther, findingsOther⟩ := other
  obtain ⟨rfl, alike⟩ := same
  dsimp only at alike short
  congr 1
  induction alike with
  | nil => rfl
  | cons first _ inductionHypothesis =>
    simp only [List.mem_cons, not_or] at short
    rw [inductionHypothesis fun rule artifact display => (short rule artifact display).2]
    cases first with
    | same finding => rfl
    | long rule artifact display other => exact absurd rfl (short rule artifact display).1

end SameResult

/-! ## Steps beside each other -/

namespace Generation

open GenerationStep (Completes)

variable {α β : Type}

/-- The state of a second run beside that of the first. -/
structure Beside (state other : Generation FileStore) : Prop where
  /-- Modules go below the same root. -/
  root : other.sinkState.root = state.sinkState.root
  /-- The same modules are taken. -/
  taken : other.taken = state.taken
  /-- The result so far is the same. -/
  result : SameResult state.result other.result

/-- A step that has been completed can be repeated: it has written to some files, and beside it, on
every tree that extends what it has made, it is completed with the same value and writes the same
once more. -/
structure Repeats (step : GenerationStep FileStore α) (state : Generation FileStore) (value : α)
    (next : Generation FileStore) (writes : Writes) : Prop where
  /-- Modules go below the same root. -/
  root : next.sinkState.root = state.sinkState.root
  /-- It writes to files, and what is new besides is no schema. -/
  changes : Changes FileTree.Unlisted writes state.sinkState.tree next.sinkState.tree
  /-- None of the files is a schema. -/
  unlisted : ∀ write ∈ writes, SchemaFile.isSchemaPath ⟨[], write.1⟩ = false
  /-- Beside it, it writes the same once more. -/
  again : ∀ other, Beside state other → next.sinkState.tree.Extends other.sinkState.tree →
    ∃ last, Completes step other value last ∧ Beside next last ∧
      last.sinkState.tree = other.sinkState.tree.overwrite writes

variable {state middle next : Generation FileStore} {root : Path}

/-- A step that leaves the sink alone. -/
theorem repeats_of_kept {step : GenerationStep FileStore α} {value : α}
    (wellFormed : state.sinkState.tree.WellFormed) (kept : next.sinkState = state.sinkState)
    (again : ∀ other, Beside state other → ∃ last, Completes step other value last ∧
      last.sinkState = other.sinkState ∧ last.taken = next.taken ∧
      SameResult next.result last.result) :
    ∃ writes, Repeats step state value next writes := by
  refine ⟨[], by rw [kept], ?_, by simp, ?_⟩
  · rw [kept]
    exact .refl wellFormed
  · intro other beside _
    obtain ⟨last, completes, same, taken, result⟩ := again other beside
    refine ⟨last, completes, ⟨?_, taken, result⟩, ?_⟩
    · rw [same, kept, beside.root]
    · rw [same]
      rfl

/-- A step that does nothing. -/
theorem repeats_pure {value given : α} (wellFormed : state.sinkState.tree.WellFormed)
    (completes : Completes (pure value) state given next) :
    ∃ writes, Repeats (pure value) state given next writes := by
  obtain ⟨⟨rfl⟩, rfl⟩ := Prod.mk.inj completes
  exact repeats_of_kept wellFormed rfl fun other beside =>
    ⟨other, rfl, rfl, beside.taken, beside.result⟩

/-- One step behind another. -/
theorem repeats_bind {first : GenerationStep FileStore α} {second : α → GenerationStep FileStore β}
    {value : β} (completes : Completes (first >>= second) state value next)
    (lead : ∀ {given middle}, Completes first state given middle →
      ∃ writes, Repeats first state given middle writes)
    (rest : ∀ {given middle}, Completes first state given middle →
      middle.sinkState.root = state.sinkState.root → middle.sinkState.tree.WellFormed →
      Completes (second given) middle value next →
      ∃ writes, Repeats (second given) middle value next writes) :
    ∃ writes, Repeats (first >>= second) state value next writes := by
  obtain ⟨given, middle, before, behind⟩ := bind_completes completes
  obtain ⟨writes, root, changes, unlisted, again⟩ := lead before
  obtain ⟨more, rootMore, changesMore, unlistedMore, againMore⟩ :=
    rest before root changes.wellFormed behind
  refine ⟨writes ++ more, rootMore.trans root, changes.trans changesMore,
    List.forall_mem_append.mpr ⟨unlisted, unlistedMore⟩, ?_⟩
  intro other beside growth
  have longer := changesMore.growth.trans growth
  obtain ⟨last, completesFirst, besideFirst, written⟩ := again other beside longer
  have grown := (changes.hasFiles.mono longer).growth
  rw [← written] at grown
  obtain ⟨final, completesRest, besideRest, writtenRest⟩ :=
    againMore last besideFirst (growth.trans grown)
  refine ⟨final, completes_bind completesFirst completesRest, besideRest, ?_⟩
  rw [writtenRest, written, FileTree.overwrite_append]

/-! ## The steps of a generation -/

variable {registry : Registry} {entry : Entry} {artifact : Artifact}

/-- The artifact of an entry does not depend on the files. -/
theorem artifactOf_repeats {value : Option Artifact} (wellFormed : state.sinkState.tree.WellFormed)
    (completes : Completes (artifactOf registry entry) state value next) :
    ∃ writes, Repeats (artifactOf registry entry) state value next writes := by
  by_cases resolved : missingNames registry entry = []
  · cases rendered : textOf registry entry with
    | error fault =>
      have done : Completes (artifactOf registry entry) state _ _ :=
        artifactOf_fault resolved rendered
      obtain ⟨⟨rfl⟩, rfl⟩ := Prod.mk.inj (done.symm.trans completes)
      refine repeats_of_kept wellFormed rfl fun other beside => ?_
      exact ⟨_, artifactOf_fault resolved rendered, rfl, beside.taken,
        beside.result.report (SameResult.refl_findings _)⟩
    | ok text =>
      have done : Completes (artifactOf registry entry) state _ _ :=
        artifactOf_text resolved rendered
      obtain ⟨⟨rfl⟩, rfl⟩ := Prod.mk.inj (done.symm.trans completes)
      refine repeats_of_kept wellFormed rfl fun other beside => ?_
      exact ⟨_, artifactOf_text resolved rendered, rfl, beside.taken, beside.result⟩
  · have done : Completes (artifactOf registry entry) state _ _ := artifactOf_missing resolved
    obtain ⟨⟨rfl⟩, rfl⟩ := Prod.mk.inj (done.symm.trans completes)
    refine repeats_of_kept wellFormed rfl fun other beside => ?_
    exact ⟨_, artifactOf_missing resolved, rfl, beside.taken,
      beside.result.report (SameResult.refl_findings _)⟩

/-- A module is taken or not by the modules taken before. -/
theorem takeModule_repeats {value : Bool} {location : Text}
    (wellFormed : state.sinkState.tree.WellFormed)
    (completes : Completes (takeModule artifact location) state value next) :
    ∃ writes, Repeats (takeModule artifact location) state value next writes := by
  cases claim : claimOn state.taken (artifact.package, artifact.moduleName) with
  | none =>
    obtain ⟨⟨rfl⟩, rfl⟩ := Prod.mk.inj ((takeModule_free location claim).symm.trans completes)
    refine repeats_of_kept wellFormed rfl fun other beside => ?_
    refine ⟨_, takeModule_free location (beside.taken ▸ claim), rfl, ?_, beside.result⟩
    dsimp only
    rw [beside.taken]
  | some kept =>
    obtain ⟨⟨rfl⟩, rfl⟩ := Prod.mk.inj ((takeModule_held location claim).symm.trans completes)
    refine repeats_of_kept wellFormed rfl fun other beside => ?_
    exact ⟨_, takeModule_held location (beside.taken ▸ claim), rfl, beside.taken,
      beside.result.report (SameResult.refl_findings _)⟩

/-- Hands an artifact to files. -/
abbrev handOver (store : FileStore) (artifact : Artifact) : Delivery FileStore :=
  fileSink.write store artifact.package artifact.typeName artifact.text

/-- What handing an artifact to files does is what writing its module does. -/
theorem handOver_eq (store : FileStore) (artifact : Artifact) :
    (handOver store artifact).outcome =
        ((FileStore.writeModule store.root (FileStore.fileOf store.root artifact)
          artifact.text).on store.tree).1 ∧
      (handOver store artifact).state.tree =
        ((FileStore.writeModule store.root (FileStore.fileOf store.root artifact)
          artifact.text).on store.tree).2 ∧
      (handOver store artifact).state.root = store.root := by
  unfold handOver fileSink FileStore.write FileStore.fileOf FileAction.on
  dsimp only
  cases StateT.run (FileStore.writeModule store.root
      (FileStore.pathFor store.root artifact.package artifact.typeName) artifact.text).run
      store.tree with
  | mk outcome tree => cases outcome <;> exact ⟨rfl, rfl, rfl⟩

/-- Handing an artifact to files can be repeated, because writing its module can. -/
theorem handOver_repeats {store : FileStore} (wellFormed : store.tree.WellFormed)
    (dotless : (".." : Text) ∉ store.root.parts)
    (named : CodePoint.ofChar '.' ∉ artifact.typeName) :
    ∃ writes, Changes FileTree.Unlisted writes store.tree (handOver store artifact).state.tree ∧
      (∀ write ∈ writes, SchemaFile.isSchemaPath ⟨[], write.1⟩ = false) ∧
      ∀ other : FileStore, other.root = store.root →
        (handOver store artifact).state.tree.Extends other.tree →
        (handOver other artifact).state.tree = other.tree.overwrite writes ∧
          Alike (handOver store artifact).outcome (handOver other artifact).outcome := by
  obtain ⟨above, last, parts, -⟩ := FileStore.pathFor_parts store.root artifact.package named
  obtain ⟨writes, changes, unlisted, again⟩ := FileStore.repeats_writeModule store.root wellFormed
    (FileStore.pathFor_dotless artifact.package named dotless) parts artifact.text
  obtain ⟨outcome, tree, -⟩ := handOver_eq store artifact
  unfold FileStore.fileOf at outcome tree
  rw [tree, outcome]
  refine ⟨writes, changes, unlisted, ?_⟩
  intro other root growth
  obtain ⟨outcomeOther, treeOther, -⟩ := handOver_eq other artifact
  unfold FileStore.fileOf at outcomeOther treeOther
  obtain ⟨answer, ran, alike⟩ := again other.tree growth
  rw [outcomeOther, treeOther, root, ran]
  exact ⟨rfl, alike⟩

/-- A delivery to files that takes the artifact. -/
theorem deliver_taken {delivery : Delivery FileStore}
    (handed : handOver state.sinkState artifact = delivery) (stored : delivery.outcome = .ok ()) :
    Completes (deliver (some fileSink) artifact) state true
      { state with sinkState := delivery.state, log := state.log ++ delivery.log } := by
  subst handed
  exact deliver_stored stored

/-- A delivery to files that refuses it. -/
theorem deliver_notTaken {delivery : Delivery FileStore} {fault : FileFault}
    (handed : handOver state.sinkState artifact = delivery)
    (failed : delivery.outcome = .error fault) (refusal : fault.isRefusal = true) :
    Completes (deliver (some fileSink) artifact) state false
      { state with
        sinkState := delivery.state, log := state.log ++ delivery.log,
        result :=
          { state.result with
            diagnostics := state.result.diagnostics ++
              [writeDiagnostic fileSink.rule artifact fault] } } := by
  subst handed
  exact deliver_refused failed refusal

/-- So a delivery can be repeated. -/
theorem deliver_repeats {value : Bool} (wellFormed : state.sinkState.tree.WellFormed)
    (dotless : (".." : Text) ∉ state.sinkState.root.parts)
    (named : CodePoint.ofChar '.' ∉ artifact.typeName)
    (completes : Completes (deliver (some fileSink) artifact) state value next) :
    ∃ writes, Repeats (deliver (some fileSink) artifact) state value next writes := by
  obtain ⟨writes, changes, unlisted, again⟩ := handOver_repeats wellFormed dotless named
  have root (store : FileStore) := (handOver_eq store artifact).2.2
  have refusal {fault : FileFault}
      (failed : (handOver state.sinkState artifact).outcome = .error fault) :
      fault.isRefusal = true := Proceeds.refusal (.inr ⟨_, _, completes⟩) failed
  have rootBefore := root state.sinkState
  generalize handed : handOver state.sinkState artifact = delivery at *
  refine ⟨writes, ?_⟩
  cases outcome : delivery.outcome with
  | ok done =>
    rw [outcome] at again
    obtain ⟨⟨rfl⟩, rfl⟩ := Prod.mk.inj ((deliver_taken handed outcome).symm.trans completes)
    refine ⟨rootBefore, changes, unlisted, ?_⟩
    intro other beside growth
    obtain ⟨written, alike⟩ := again other.sinkState beside.root growth
    have rootAgain := (root other.sinkState).trans (beside.root.trans rootBefore.symm)
    generalize handedAgain : handOver other.sinkState artifact = deliveryAgain at *
    have stored : deliveryAgain.outcome = .ok () := by
      generalize deliveryAgain.outcome = answer at alike
      cases alike
      rfl
    exact ⟨_, deliver_taken handedAgain stored, ⟨rootAgain, beside.taken, beside.result⟩, written⟩
  | error fault =>
    rw [outcome] at again
    have refusal := refusal outcome
    obtain ⟨⟨rfl⟩, rfl⟩ :=
      Prod.mk.inj ((deliver_notTaken handed outcome refusal).symm.trans completes)
    refine ⟨rootBefore, changes, unlisted, ?_⟩
    intro other beside growth
    obtain ⟨written, alike⟩ := again other.sinkState beside.root growth
    have rootAgain := (root other.sinkState).trans (beside.root.trans rootBefore.symm)
    generalize handedAgain : handOver other.sinkState artifact = deliveryAgain at *
    obtain ⟨reason, failed, refusalAgain, same⟩ : ∃ reason,
        deliveryAgain.outcome = .error reason ∧ reason.isRefusal = true ∧
          SameFinding (writeDiagnostic fileSink.rule artifact fault)
            (writeDiagnostic fileSink.rule artifact reason) := by
      generalize deliveryAgain.outcome = answer at alike
      cases alike with
      | same => exact ⟨fault, rfl, refusal, .same _⟩
      | long display other => exact ⟨_, rfl, rfl, .long fileSink.rule artifact display other⟩
    exact ⟨_, deliver_notTaken handedAgain failed refusalAgain, ⟨rootAgain, beside.taken,
      beside.result.report (.cons same .nil)⟩, written⟩

/-- An artifact is emitted again as it was. -/
theorem emit_repeats {location : Text} (wellFormed : state.sinkState.tree.WellFormed)
    (dotless : (".." : Text) ∉ state.sinkState.root.parts)
    (named : CodePoint.ofChar '.' ∉ artifact.typeName)
    (completes : Completes (emit (some fileSink) artifact location) state () next) :
    ∃ writes, Repeats (emit (some fileSink) artifact location) state () next writes := by
  refine repeats_bind completes (takeModule_repeats wellFormed) ?_
  intro taken middle _ root wellFormed completes
  cases taken with
  | false => exact repeats_pure wellFormed completes
  | true =>
    refine repeats_bind completes (deliver_repeats wellFormed (root ▸ dotless) named) ?_
    intro delivered middle _ _ wellFormed completes
    cases delivered with
    | false => exact repeats_pure wellFormed completes
    | true =>
      obtain ⟨-, rfl⟩ := Prod.mk.inj completes
      exact repeats_of_kept wellFormed rfl fun other beside =>
        ⟨_, rfl, rfl, beside.taken, beside.result.list artifact⟩

/-- The artifact of an entry has its name. -/
theorem artifactOf_typeName
    (completes : Completes (artifactOf registry entry) state (some artifact) next) :
    artifact.typeName = entry.name := by
  by_cases resolved : missingNames registry entry = []
  · cases rendered : textOf registry entry with
    | error fault =>
      obtain ⟨⟨⟩, -⟩ := Prod.mk.inj ((artifactOf_fault resolved rendered).symm.trans completes)
    | ok text =>
      obtain ⟨⟨rfl⟩, -⟩ := Prod.mk.inj ((artifactOf_text resolved rendered).symm.trans completes)
      rfl
  · obtain ⟨⟨⟩, -⟩ := Prod.mk.inj ((artifactOf_missing resolved).symm.trans completes)

/-- An entry is generated again as it was. -/
theorem generateEntry_repeats (wellFormed : state.sinkState.tree.WellFormed)
    (dotless : (".." : Text) ∉ state.sinkState.root.parts)
    (named : CodePoint.ofChar '.' ∉ entry.name)
    (completes : Completes (generateEntry registry (some fileSink) entry) state () next) :
    ∃ writes, Repeats (generateEntry registry (some fileSink) entry) state () next writes := by
  refine repeats_bind completes (artifactOf_repeats wellFormed) ?_
  intro given middle found root wellFormed completes
  cases given with
  | none => exact repeats_pure wellFormed completes
  | some artifact =>
    rw [← artifactOf_typeName found] at named
    exact emit_repeats wellFormed (root ▸ dotless) named completes

/-- So are entries one behind the other. -/
theorem forM_repeats {entries : List Entry} (wellFormed : state.sinkState.tree.WellFormed)
    (dotless : (".." : Text) ∉ state.sinkState.root.parts)
    (named : ∀ entry ∈ entries, CodePoint.ofChar '.' ∉ entry.name)
    (completes : Completes (entries.forM (generateEntry registry (some fileSink))) state () next) :
    ∃ writes, Repeats (entries.forM (generateEntry registry (some fileSink))) state () next
      writes := by
  induction entries generalizing state with
  | nil => exact repeats_pure wellFormed completes
  | cons entry entries inductionHypothesis =>
    rw [List.forall_mem_cons] at named
    refine repeats_bind completes (generateEntry_repeats wellFormed dotless named.1) ?_
    intro _ middle _ root wellFormed completes
    exact inductionHypothesis wellFormed (root ▸ dotless) named.2 completes

/-- The name of the bindings module has no dots, because it stands behind the last one. -/
theorem bindingsArtifact?_dotless {package : Text} {injectionModule : Option Text}
    {artifacts : List Artifact}
    (wanted : bindingsArtifact? package injectionModule artifacts = some artifact) :
    CodePoint.ofChar '.' ∉ artifact.typeName := by
  unfold bindingsArtifact? at wanted
  split at wanted
  · cases wanted
  · cases wanted
  · next qualified _ =>
    dsimp only at wanted
    split at wanted
    · cases wanted
    · obtain rfl := Option.some.inj wanted
      have some := Text.splitOn_ne_nil ('.' : Char) qualified
      change CodePoint.ofChar '.' ∉ (Text.splitOn ('.' : Char) qualified).getLastD []
      rw [List.getLastD_eq_getLast?, List.getLast?_eq_some_getLast some]
      exact Text.not_mem_of_mem_splitOn _ (List.getLast_mem some)

/-- Generating the bindings module for the artifacts listed so far. -/
theorem generateBindings_completes {injectionModule : Option Text} {wanted : Option Artifact}
    (made : bindingsArtifact? registry.defaultPackage injectionModule state.result.artifacts =
      wanted) :
    Completes (generateBindings registry injectionModule (some fileSink)) state () next ↔
      Completes (match wanted with
        | none => pure ()
        | some artifact => emit (some fileSink) artifact
            ("injection module " ++ injectionModule.getD [])) state () next := by
  subst made
  rfl

/-- The bindings module is generated again as it was, because it is made from the artifacts. -/
theorem generateBindings_repeats {injectionModule : Option Text}
    (wellFormed : state.sinkState.tree.WellFormed)
    (dotless : (".." : Text) ∉ state.sinkState.root.parts)
    (completes : Completes (generateBindings registry injectionModule (some fileSink)) state ()
      next) :
    ∃ writes, Repeats (generateBindings registry injectionModule (some fileSink)) state () next
      writes := by
  cases wanted : bindingsArtifact? registry.defaultPackage injectionModule
      state.result.artifacts with
  | none =>
    have done := (generateBindings_completes wanted).mp completes
    obtain ⟨-, rfl⟩ := Prod.mk.inj done
    refine repeats_of_kept wellFormed rfl fun other beside => ⟨other, ?_, rfl, beside.taken,
      beside.result⟩
    rw [← beside.result.artifacts] at wanted
    exact (generateBindings_completes wanted).mpr rfl
  | some artifact =>
    obtain ⟨writes, root, changes, unlisted, again⟩ := emit_repeats wellFormed dotless
      (bindingsArtifact?_dotless wanted) ((generateBindings_completes wanted).mp completes)
    refine ⟨writes, root, changes, unlisted, ?_⟩
    intro other beside growth
    obtain ⟨last, emitted, rest⟩ := again other beside growth
    rw [← beside.result.artifacts] at wanted
    exact ⟨last, (generateBindings_completes wanted).mpr emitted, rest⟩

/-- A whole generation can be repeated. -/
theorem generateAll_repeats {injectionModule : Option Text}
    (wellFormed : state.sinkState.tree.WellFormed)
    (dotless : (".." : Text) ∉ state.sinkState.root.parts)
    (named : ∀ entry ∈ registry.entriesOf .generation, CodePoint.ofChar '.' ∉ entry.name)
    (completes : Completes (generateAll registry injectionModule (some fileSink)) state () next) :
    ∃ writes, Repeats (generateAll registry injectionModule (some fileSink)) state () next
      writes := by
  refine repeats_bind completes (forM_repeats wellFormed dotless named) ?_
  intro _ middle _ root wellFormed completes
  rw [← root] at dotless
  refine repeats_bind completes (generateBindings_repeats wellFormed dotless) ?_
  intro _ middle _ _ wellFormed completes
  obtain ⟨-, rfl⟩ := Prod.mk.inj completes
  exact repeats_of_kept wellFormed rfl fun other beside =>
    ⟨_, rfl, rfl, beside.taken, beside.result⟩

end Generation

/-! ## Sessions -/

namespace Session

open Generation

variable {session : Session} {result : GenerationResult}

/-- A generation that gives a result has been completed. -/
theorem generate_completes {σ : Type} {sink : Option (Sink σ)} {start final : σ}
    {result : GenerationResult} :
    (session.generate sink start).outcome = .ok result ∧
        (session.generate sink start).sinkState = final ↔
      ∃ next, GenerationStep.Completes
          (generateAll session.freeze.registry session.injectionModule sink)
          { sinkState := start } () next ∧
        next.sinkState = final ∧
        { next.result with diagnostics := session.findings ++ next.result.diagnostics } =
          result := by
  have frozen : session.freeze.registry.frozen = true := rfl
  unfold generate Registry.generate GenerationStep.Completes
  rw [if_pos frozen]
  generalize StateT.run (generateAll session.freeze.registry session.injectionModule sink).run
    { sinkState := start } = ran
  obtain ⟨outcome, next⟩ := ran
  cases outcome with
  | error fault =>
    constructor
    · rintro ⟨⟨⟩, -⟩
    · rintro ⟨_, ran, -⟩
      cases (Prod.mk.inj ran).1
  | ok done =>
    constructor
    · rintro ⟨⟨rfl⟩, rfl⟩
      exact ⟨next, rfl, rfl, rfl⟩
    · rintro ⟨_, ran, rfl, rfl⟩
      obtain ⟨-, rfl⟩ := Prod.mk.inj ran
      exact ⟨rfl, rfl⟩

/-- A session that has been generated into files is generated again as it was. -/
theorem generate_repeats (store : FileStore) (wellFormed : store.tree.WellFormed)
    (dotless : (".." : Text) ∉ store.root.parts)
    (named : ∀ entry ∈ session.registry.entries, CodePoint.ofChar '.' ∉ entry.name)
    (given : (session.generate (some fileSink) store).outcome = .ok result) :
    ∃ writes, Changes FileTree.Unlisted writes store.tree
        (session.generate (some fileSink) store).sinkState.tree ∧
      (∀ write ∈ writes, SchemaFile.isSchemaPath ⟨[], write.1⟩ = false) ∧
      ∀ later : FileStore, later.root = store.root →
        (session.generate (some fileSink) store).sinkState.tree.Extends later.tree →
        ∃ again, (session.generate (some fileSink) later).outcome = .ok again ∧
          (session.generate (some fileSink) later).sinkState.tree = later.tree.overwrite writes ∧
          SameResult result again := by
  obtain ⟨next, completes, final, rfl⟩ := generate_completes.mp ⟨given, rfl⟩
  have listed : ∀ entry ∈ session.freeze.registry.entriesOf .generation,
      CodePoint.ofChar '.' ∉ entry.name := by
    intro entry member
    have inside := (Registry.entriesOf_perm _ _).mem_iff.mp member
    exact named entry (List.mem_filter.mp inside).1
  obtain ⟨writes, -, changes, unlisted, again⟩ :=
    generateAll_repeats wellFormed dotless listed completes
  rw [← final]
  refine ⟨writes, changes, unlisted, ?_⟩
  intro later root growth
  obtain ⟨last, completesAgain, beside, written⟩ := again { sinkState := later }
    ⟨root, rfl, rfl, .nil⟩ growth
  obtain ⟨outcome, sink⟩ := generate_completes.mpr ⟨last, completesAgain, rfl, rfl⟩
  refine ⟨_, outcome, by rw [sink, written], beside.result.artifacts, ?_⟩
  exact List.rel_append (SameResult.refl_findings _) beside.result.diagnostics

/-- What comes of generating into files. -/
theorem generateFiles_gives (session : Session) (root : Path) (written : List Path)
    (workspace : Workspace) :
    (session.generateFiles root written).Gives workspace
      ((session.generate (some fileSink) ⟨root, workspace.tree, written⟩).outcome.map
        (fun result =>
          ((session.generate (some fileSink) ⟨root, workspace.tree, written⟩).sinkState.written,
            result)))
      (session.generate (some fileSink) ⟨root, workspace.tree, written⟩).sinkState.tree := by
  unfold generateFiles
  refine Action.gives_bind (Action.tree_gives workspace) (fun log => ?_)
  generalize session.generate (some fileSink) ⟨root, workspace.tree, written⟩ = generated
  refine ⟨log ++ generated.log, ?_⟩
  obtain ⟨sinkState, events, outcome⟩ := generated
  cases outcome <;> rfl

end Session

end SchemaForge

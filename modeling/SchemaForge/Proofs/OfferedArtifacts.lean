import SchemaForge.Proofs.ImportGraph

/-!
# What a sink is offered

A generation hands artifacts to its sink: those of its entries, one by one, and then the
bindings module. What every one of these deliveries keeps, the whole generation keeps, and what
stops it is a failure of one of them that is no refusal.

`Ends` speaks about a step however it ends, completed or stopped, and is proved of each step
from the one before it. What is asked of the sink is said once, in `Serves`, and only about the
artifacts that it may be offered.
-/

namespace SchemaForge

/-- However a step ends, the sink is as it should be, and a fault that stops the step is one
of those expected. -/
structure GenerationStep.Ends {σ α : Type} (good : σ → Prop) (fails : FileFault → Prop)
    (step : GenerationStep σ α) (state : Generation σ) : Prop where
  /-- The sink is as it should be. -/
  good : good (StateT.run step.run state).2.sinkState
  /-- A fault is one of those expected. -/
  fails : ∀ fault, (StateT.run step.run state).1 = .error fault → fails fault

namespace Generation

open GenerationStep (Completes Ends)

variable {σ α β : Type} {registry : Registry} {injectionModule : Option Text}

/-! ## Artifacts that are offered -/

/-- The artifact of an entry that comes as far as its module. -/
def FromEntry (registry : Registry) (artifact : Artifact) : Prop :=
  ∃ entry ∈ registry.entriesOf .generation, Reaches registry entry ∧
    ∃ text, textOf registry entry = .ok text ∧ artifactFor registry entry text = artifact

/-- An artifact that a generation may hand to its sink: that of an entry, or the bindings
module of such artifacts. -/
inductive Offered (registry : Registry) (injectionModule : Option Text) : Artifact → Prop where
  | entry {artifact : Artifact} (given : FromEntry registry artifact) :
      Offered registry injectionModule artifact
  | bindings {artifact : Artifact} {listed : List Artifact}
      (given : ∀ other ∈ listed, FromEntry registry other)
      (wanted : bindingsArtifact? registry.defaultPackage injectionModule listed =
        some artifact) :
      Offered registry injectionModule artifact

/-- Without an injection module all artifacts come from entries. -/
theorem Offered.fromEntry {artifact : Artifact} (offered : Offered registry none artifact) :
    FromEntry registry artifact := by
  cases offered with
  | entry given => exact given
  | bindings given wanted => cases wanted

/-- What is asked of a sink: a delivery keeps it as it should be, and one that fails without
being a refusal fails as expected. -/
structure Serves (target : Sink σ) (good : σ → Prop) (fits : Artifact → Prop)
    (fails : FileFault → Prop) : Prop where
  /-- A delivery keeps the sink as it should be. -/
  keeps : ∀ {state artifact}, good state → fits artifact →
    good (target.write state artifact.package artifact.typeName artifact.text).state
  /-- A failure that is no refusal is one of those expected. -/
  stops : ∀ {state artifact fault}, good state → fits artifact →
    (target.write state artifact.package artifact.typeName artifact.text).outcome =
      .error fault → fault.isRefusal = false → fails fault

/-! ## Steps -/

section Steps

variable {good : σ → Prop} {fits : Artifact → Prop} {fails : FileFault → Prop}
  {state : Generation σ} {target : Sink σ}

/-- A step that completes ends so. -/
theorem ends_of_completes {step : GenerationStep σ α} {value : α} {next : Generation σ}
    (completes : Completes step state value next) (held : good next.sinkState) :
    Ends good fails step state := by
  unfold Completes at completes
  constructor
  · rw [completes]
    exact held
  · rw [completes]
    rintro fault ⟨⟩

/-- One step behind another. -/
theorem ends_bind {first : GenerationStep σ α} {second : α → GenerationStep σ β}
    (lead : Ends good fails first state)
    (rest : ∀ {given middle}, Completes first state given middle → good middle.sinkState →
      Ends good fails (second given) middle) :
    Ends good fails (first >>= second) state := by
  obtain ⟨held, expected⟩ := lead
  cases ran : StateT.run first.run state with
  | mk outcome middle =>
    rw [ran] at held expected
    cases outcome with
    | error fault =>
      have whole : StateT.run (first >>= second).run state = (.error fault, middle) := by
        rw [ExceptT.run_bind, StateT.run_bind, ran]
        rfl
      constructor
      · rw [whole]
        exact held
      · rw [whole]
        rintro _ ⟨⟩
        exact expected fault rfl
    | ok given =>
      have whole : StateT.run (first >>= second).run state =
          StateT.run (second given).run middle := by
        rw [ExceptT.run_bind, StateT.run_bind, ran]
        rfl
      obtain ⟨heldBehind, expectedBehind⟩ := rest ran held
      constructor
      · rw [whole]
        exact heldBehind
      · rw [whole]
        exact expectedBehind

/-- Taking a module does not touch the sink. -/
theorem takeModule_ends (artifact : Artifact) (location : Text) (held : good state.sinkState) :
    Ends good fails (takeModule artifact location) state := by
  cases claim : claimOn state.taken (artifact.package, artifact.moduleName) with
  | none => exact ends_of_completes (takeModule_free location claim) held
  | some kept => exact ends_of_completes (takeModule_held location claim) held

/-- A delivery ends as the sink does. -/
theorem deliver_ends (serves : Serves target good fits fails) {artifact : Artifact}
    (fitting : fits artifact) (held : good state.sinkState) :
    Ends good fails (deliver (some target) artifact) state := by
  have kept := serves.keeps held fitting
  cases written : (target.write state.sinkState artifact.package artifact.typeName
      artifact.text).outcome with
  | ok done => exact ends_of_completes (deliver_stored written) kept
  | error fault =>
    cases refusal : fault.isRefusal with
    | true => exact ends_of_completes (deliver_refused written refusal) kept
    | false =>
      have expected := serves.stops held fitting written refusal
      refine ends_bind (ends_of_completes get_completes held) ?_
      rintro _ _ ⟨⟩ -
      refine ends_bind (ends_of_completes set_completes kept) ?_
      rintro _ _ ⟨⟩ -
      simp only [written, refusal, Bool.false_eq_true, ↓reduceIte]
      constructor
      · exact kept
      · rintro _ ⟨⟩
        exact expected

/-- An artifact that the sink can be offered is emitted. -/
theorem emit_ends (serves : Serves target good fits fails) {artifact : Artifact}
    (fitting : fits artifact) (location : Text) (held : good state.sinkState) :
    Ends good fails (emit (some target) artifact location) state := by
  refine ends_bind (takeModule_ends artifact location held) ?_
  intro taken middle _ held
  cases taken with
  | false => exact ends_of_completes rfl held
  | true =>
    refine ends_bind (deliver_ends serves fitting held) ?_
    intro delivered middle _ held
    cases delivered with
    | false => exact ends_of_completes rfl held
    | true => exact ends_of_completes rfl held

/-- One entry: it is passed over, or its artifact is emitted. -/
theorem generateEntry_ends (serves : Serves target good fits fails)
    (offered : ∀ artifact, FromEntry registry artifact → fits artifact) {entry : Entry}
    (listed : entry ∈ registry.entriesOf .generation) (held : good state.sinkState) :
    Ends good fails (generateEntry registry (some target) entry) state := by
  by_cases resolved : missingNames registry entry = []
  · cases rendered : textOf registry entry with
    | error fault =>
      exact ends_of_completes (completes_bind (artifactOf_fault resolved rendered) rfl) held
    | ok text =>
      have reaches : Reaches registry entry :=
        ⟨missingNames_eq_nil.mp resolved, (textOf_isOk registry entry).mp ⟨text, rendered⟩⟩
      have found : Completes (artifactOf registry entry) state _ _ :=
        artifactOf_text resolved rendered
      refine ends_bind (ends_of_completes found held) ?_
      intro given middle completes held
      obtain ⟨⟨rfl⟩, rfl⟩ := Prod.mk.inj (found.symm.trans completes)
      exact emit_ends serves (offered _ ⟨entry, listed, reaches, text, rendered, rfl⟩) _ held
  · exact ends_of_completes (completes_bind (artifactOf_missing resolved) rfl) held

/-- The entries one behind the other. -/
theorem forM_ends (serves : Serves target good fits fails)
    (offered : ∀ artifact, FromEntry registry artifact → fits artifact) {entries : List Entry}
    (listed : ∀ entry ∈ entries, entry ∈ registry.entriesOf .generation)
    (held : good state.sinkState) :
    Ends good fails (entries.forM (generateEntry registry (some target))) state := by
  induction entries generalizing state with
  | nil => exact ends_of_completes rfl held
  | cons entry entries inductionHypothesis =>
    rw [List.forall_mem_cons] at listed
    refine ends_bind (generateEntry_ends serves offered listed.1 held) ?_
    intro _ _ _ held
    exact inductionHypothesis listed.2 held

end Steps

/-! ## Runs -/

/-- The artifacts of a run come from its entries. -/
theorem GenerationRun.fromEntries {sink : Option (Sink σ)} {earlier entries : List Entry}
    {before after : σ} {outcomes : List GenerationResult}
    (run : GenerationRun registry sink earlier entries before outcomes after)
    (listed : ∀ entry ∈ entries, entry ∈ registry.entriesOf .generation) :
    ∀ artifact ∈ (resultOf outcomes).artifacts, FromEntry registry artifact := by
  induction run with
  | done => simp [resultOf]
  | @next _ _ entry _ _ _ outcome outcomes first rest inductionHypothesis =>
    rw [List.forall_mem_cons] at listed
    have split : (resultOf (outcome :: outcomes)).artifacts =
        outcome.artifacts ++ (resultOf outcomes).artifacts := rfl
    rw [split, List.forall_mem_append]
    refine ⟨?_, inductionHypothesis listed.2⟩
    intro artifact member
    cases first with
    | unresolved found some => cases member
    | unrenderable resolved unfit failed => cases member
    | @emission text _ _ reaches rendered emitted =>
      obtain ⟨rfl, -⟩ := emitted.free_of_mem member
      exact ⟨entry, listed.1, reaches, text, rendered, rfl⟩

/-- The artifacts that are listed when all entries are done come from entries. -/
theorem forM_fromEntries {sink : Option (Sink σ)} {start : σ} {next : Generation σ}
    (completes : Completes ((registry.entriesOf .generation).forM (generateEntry registry sink))
      { sinkState := start } () next) :
    ∀ artifact ∈ next.result.artifacts, FromEntry registry artifact := by
  obtain ⟨outcomes, other, same, run, result, -⟩ := forM_run [] (registry.entriesOf .generation)
    { sinkState := start } (.inr ⟨(), next, completes⟩) (fun _ => rfl)
  obtain ⟨-, rfl⟩ := Prod.mk.inj (completes.symm.trans same)
  rw [result]
  exact run.fromEntries (fun _ => id)

section Generations

variable {good : σ → Prop} {fits : Artifact → Prop} {fails : FileFault → Prop} {target : Sink σ}

/-- A generation keeps its sink as it should be, and only an expected fault stops it. -/
theorem generateAll_ends (serves : Serves target good fits fails)
    (offered : ∀ artifact, Offered registry injectionModule artifact → fits artifact) {start : σ}
    (held : good start) :
    Ends good fails (generateAll registry injectionModule (some target))
      { sinkState := start } := by
  refine ends_bind (forM_ends serves (fun artifact given => offered artifact (.entry given))
    (fun _ => id) held) ?_
  intro _ middle completes held
  have given := forM_fromEntries completes
  have bindings : Ends good fails (generateBindings registry injectionModule (some target))
      middle := by
    refine ends_bind (ends_of_completes get_completes held) ?_
    rintro _ _ ⟨⟩ held
    cases wanted : bindingsArtifact? registry.defaultPackage injectionModule
        middle.result.artifacts with
    | none => exact ends_of_completes rfl held
    | some artifact => exact emit_ends serves (offered artifact (.bindings given wanted)) _ held
  refine ends_bind bindings ?_
  intro _ middle _ held
  exact ends_of_completes (completes_bind get_completes (tell_completes _)) held

/-- However a generation ends, its sink is as it should be. -/
theorem generate_keeps (serves : Serves target good fits fails)
    (offered : ∀ artifact, Offered registry injectionModule artifact → fits artifact) {start : σ}
    (held : good start) :
    good (registry.generate injectionModule (some target) start).sinkState := by
  have kept := (generateAll_ends serves offered held).good
  unfold Registry.generate
  split
  · generalize StateT.run (generateAll registry injectionModule (some target)).run
      { sinkState := start } = ran at *
    obtain ⟨outcome, final⟩ := ran
    cases outcome <;> exact kept
  · exact held

/-- A generation that no fault is expected of is not stopped. -/
theorem generate_proceeds (serves : Serves target good fits (fun _ => False))
    (offered : ∀ artifact, Offered registry injectionModule artifact → fits artifact) {start : σ}
    (held : good start) :
    Proceeds (some target) (generateAll registry injectionModule (some target))
      { sinkState := start } := by
  have stops := (generateAll_ends serves offered held).fails
  refine .inr ?_
  unfold Completes
  generalize StateT.run (generateAll registry injectionModule (some target)).run
    { sinkState := start } = ran at *
  obtain ⟨outcome, final⟩ := ran
  cases outcome with
  | error fault => exact (stops fault rfl).elim
  | ok done => exact ⟨done, final, rfl⟩

end Generations

end Generation

end SchemaForge

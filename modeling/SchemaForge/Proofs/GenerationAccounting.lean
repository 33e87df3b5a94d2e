import SchemaForge.Proofs.EntryOrder
import SchemaForge.Proofs.GenerationSteps
import SchemaForge.Proofs.SpanErasure

/-!
# The accounting of a generation

Every entry of a generation has one outcome, and the outcome is decided by the registry,
the entries before it and the sink: unknown types it mentions, a module that cannot be
rendered, a module that an earlier entry has claimed, a refusal of the sink, or an
artifact. `EntryOutcome` states the alternatives without the state of the generation;
`GenerationRun` puts the outcomes of all entries in a row, and the sink goes from one to
the next.

The table of taken modules is what ties the two together. It forgets which entries came
before and keeps only the first claim on each module, and that is enough: a claim is
decided by the first one alone. An entry claims its module even if the sink then refuses
the text, and an entry that is passed over claims nothing.
-/

namespace SchemaForge

/-! ## What an entry mentions and binds -/

/-- Every mention of a type in a definition, in the order of the text. -/
def Definition.mentions : Definition → List Text
  | .object type | .interface type =>
    type.interfaces.map NamedType.name ++
      type.fields.flatMap (fun field =>
        field.type.innermost.name ::
          field.arguments.map (fun argument => argument.type.innermost.name))
  | .inputObject type => type.fields.map (fun field => field.type.innermost.name)
  | .union type => type.members.map NamedType.name
  | .scalar _ | .enum _ | .directive _ | .schema _ => []

/-- The names among the uses that are wanted, each once, in the order of first use. -/
structure FirstUses (uses : List Text) (wanted : Text → Prop) (names : List Text) : Prop where
  /-- They are the used names that are wanted. -/
  mem_iff : ∀ name, name ∈ names ↔ name ∈ uses ∧ wanted name
  /-- No name occurs twice. -/
  nodup : names.Nodup
  /-- A name that is used first comes first. -/
  ordered : names.Pairwise (fun earlier later => uses.idxOf earlier < uses.idxOf later)

namespace Text

/-- Leaving out repetitions leaves out no text. -/
theorem mem_distinct {text : Text} {texts : List Text} : text ∈ distinct texts ↔ text ∈ texts := by
  induction texts with
  | nil => simp [distinct]
  | cons first others inductionHypothesis =>
    by_cases same : text = first <;> simp [distinct, inductionHypothesis, same]

/-- Without repetitions texts stand in the order of their first occurrence. -/
theorem distinct_ordered (texts : List Text) :
    (distinct texts).Pairwise (fun earlier later => texts.idxOf earlier < texts.idxOf later) := by
  induction texts with
  | nil => exact .nil
  | cons first others inductionHypothesis =>
    have behind {text : Text} (unlike : text ≠ first) :
        (first :: others).idxOf text = others.idxOf text + 1 := by
      rw [List.idxOf_cons, beq_false_of_ne unlike.symm]
      rfl
    refine List.pairwise_cons.mpr ⟨?_, ?_⟩
    · intro later member
      have unlike : later ≠ first := by simpa using (List.mem_filter.mp member).2
      rw [List.idxOf_cons_self, behind unlike]
      exact Nat.succ_pos _
    · rw [List.pairwise_filter]
      refine inductionHypothesis.imp ?_
      intro earlier later ordered earlierUnlike laterUnlike
      rw [behind (by simpa using earlierUnlike), behind (by simpa using laterUnlike)]
      exact Nat.succ_lt_succ ordered

/-- The wanted texts among those without repetitions are the first uses. -/
theorem firstUses_filter {test : Text → Bool} {wanted : Text → Prop}
    (tests : ∀ text, test text = true ↔ wanted text) (uses : List Text) :
    FirstUses uses wanted ((distinct uses).filter test) := by
  have ordered := (distinct_ordered uses).filter test
  refine ⟨?_, ?_, ordered⟩
  · intro name
    rw [List.mem_filter, mem_distinct, tests]
  · refine ordered.imp ?_
    rintro earlier later before rfl
    exact Nat.lt_irrefl _ before

end Text

/-- A name that an entry may not mention: no builtin scalar, not the entry itself, and
known to no schema. -/
def Unknown (registry : Registry) (entry : Entry) (name : Text) : Prop :=
  isBuiltinScalar name = false ∧ name ≠ entry.name ∧ ∀ other ∈ registry.entries, other.name ≠ name

instance (registry : Registry) (entry : Entry) (name : Text) :
    Decidable (Unknown registry entry name) := by
  unfold Unknown
  infer_instance

/-- A module can be rendered for a definition of a type that binds no reserved name. -/
def Renderable (entry : Entry) : Prop :=
  entry.definition.DefinesType ∧
    ∀ name ∈ Render.boundNames entry.definition, name ∉ Render.reservedNames

instance (entry : Entry) : Decidable (Renderable entry) := by
  unfold Renderable
  infer_instance

/-- An entry that comes as far as claiming its module. -/
def Reaches (registry : Registry) (entry : Entry) : Prop :=
  (∀ name ∈ entry.definition.mentions, ¬ Unknown registry entry name) ∧ Renderable entry

instance (registry : Registry) (entry : Entry) : Decidable (Reaches registry entry) := by
  unfold Reaches
  infer_instance

namespace Generation

variable {registry : Registry} {entry : Entry}

/-- The names of a definition are its mentions without repetitions. -/
theorem referencedNames_eq (definition : Definition) :
    definition.referencedNames = Text.distinct definition.mentions := by
  cases definition <;> rfl

/-- The missing names are the first uses of unknown ones. -/
theorem missingNames_firstUses (registry : Registry) (entry : Entry) :
    FirstUses entry.definition.mentions (Unknown registry entry)
      (missingNames registry entry) := by
  unfold missingNames neededNames
  rw [List.filter_filter, referencedNames_eq]
  refine Text.firstUses_filter ?_ _
  intro name
  simp only [Unknown, Registry.find?, Bool.and_eq_true, Bool.not_eq_true', decide_eq_false_iff_not,
    Option.isNone_iff_eq_none, List.find?_eq_none, decide_eq_true_eq]
  constructor
  · rintro ⟨unknown, foreign, unlike⟩
    exact ⟨foreign, unlike, unknown⟩
  · rintro ⟨foreign, unlike, unknown⟩
    exact ⟨unknown, foreign, unlike⟩

/-- No name is missing exactly if no unknown one is mentioned. -/
theorem missingNames_eq_nil :
    missingNames registry entry = [] ↔
      ∀ name ∈ entry.definition.mentions, ¬ Unknown registry entry name := by
  rw [List.eq_nil_iff_forall_not_mem]
  simp only [(missingNames_firstUses registry entry).mem_iff, not_and]

/-- Nothing clashes exactly if no reserved name is bound. -/
theorem clashingNames_eq_nil (definition : Definition) :
    Render.clashingNames definition = [] ↔
      ∀ name ∈ Render.boundNames definition, name ∉ Render.reservedNames := by
  simp only [Render.clashingNames, List.filter_eq_nil_iff, List.contains_iff_mem]
  constructor
  · intro free name bound reserved
    exact free name reserved bound
  · intro free name reserved bound
    exact free name bound reserved

/-- The parts of a module are there for every definition of a type, and for no other. -/
theorem parts_isOk (width : Nat) (definition : Definition) (contracts : Contracts) :
    (∃ parts, Render.parts width definition contracts = .ok parts) ↔
      definition.DefinesType := by
  cases definition <;> simp [Render.parts, Definition.DefinesType, Definition.kind]

/-- A text is rendered exactly for what can be rendered. -/
theorem textOf_isOk (registry : Registry) (entry : Entry) :
    (∃ text, textOf registry entry = .ok text) ↔ Renderable entry := by
  unfold textOf Render.moduleText Renderable
  rw [← clashingNames_eq_nil, ← parts_isOk indentWidth _ (Contracts.ofEntry entry)]
  by_cases free : Render.clashingNames entry.definition = []
  · simp only [free, List.isEmpty_nil, ↓reduceIte, and_true]
    cases Render.parts indentWidth entry.definition (Contracts.ofEntry entry) <;> simp
  · simp [free]

/-! ## Outcomes -/

/-- What becomes of an artifact for which a module is claimed, after the claims before it.
The sink is asked only for a module that is free. -/
inductive Emission {σ : Type} (sink : Option (Sink σ)) (claims : List TakenModule)
    (artifact : Artifact) (location : Text) (before : σ) : GenerationResult → σ → Prop where
  /-- The module is claimed, and the first claim on it is named. -/
  | clash {kept : TakenModule}
      (held : claimOn claims (artifact.package, artifact.moduleName) = some kept) :
      Emission sink claims artifact location before
        ⟨[], [clashDiagnostic kept artifact location]⟩ before
  /-- The module is free and the sink refuses the text. -/
  | refused {target : Sink σ} {fault : FileFault}
      (free : claimOn claims (artifact.package, artifact.moduleName) = none)
      (given : sink = some target)
      (failed : (target.write before artifact.package artifact.typeName artifact.text).outcome =
        .error fault) :
      Emission sink claims artifact location before
        ⟨[], [writeDiagnostic target.rule artifact fault]⟩
        (target.write before artifact.package artifact.typeName artifact.text).state
  /-- The module is free and the sink stores the text. -/
  | stored {target : Sink σ}
      (free : claimOn claims (artifact.package, artifact.moduleName) = none)
      (given : sink = some target)
      (written : (target.write before artifact.package artifact.typeName artifact.text).outcome =
        .ok ()) :
      Emission sink claims artifact location before ⟨[artifact], []⟩
        (target.write before artifact.package artifact.typeName artifact.text).state
  /-- The module is free and there is no sink. -/
  | listed (free : claimOn claims (artifact.package, artifact.moduleName) = none)
      (given : sink = none) :
      Emission sink claims artifact location before ⟨[artifact], []⟩ before

/-- The claim of an entry on its module. -/
def entryClaim (entry : Entry) : TakenModule :=
  ⟨(entry.package, ModuleName.ofType entry.name), entry.name, entry.location⟩

/-- The claims of the entries that came as far as making one. -/
def claimsOf (registry : Registry) (entries : List Entry) : List TakenModule :=
  (entries.filter (fun entry => decide (Reaches registry entry))).map entryClaim

/-- The one outcome of an entry, given the entries before it. -/
inductive EntryOutcome {σ : Type} (registry : Registry) (sink : Option (Sink σ))
    (earlier : List Entry) (entry : Entry) (before : σ) : GenerationResult → σ → Prop where
  /-- Unknown names are mentioned: one finding for each, in the order of first use. -/
  | unresolved {missing : List Text}
      (found : FirstUses entry.definition.mentions (Unknown registry entry) missing)
      (some : missing ≠ []) :
      EntryOutcome registry sink earlier entry before
        ⟨[], missing.map (fun name =>
          (Problem.unresolvedReference entry.name name entry.location).diagnostic)⟩ before
  /-- No module can be rendered. -/
  | unrenderable {fault : RenderFault}
      (resolved : ∀ name ∈ entry.definition.mentions, ¬ Unknown registry entry name)
      (unfit : ¬ Renderable entry) (failed : textOf registry entry = .error fault) :
      EntryOutcome registry sink earlier entry before ⟨[], [renderDiagnostic entry fault]⟩ before
  /-- The entry claims its module. -/
  | emission {text : Text} {outcome : GenerationResult} {after : σ}
      (reaches : Reaches registry entry) (rendered : textOf registry entry = .ok text)
      (emitted : Emission sink (claimsOf registry earlier) (artifactFor registry entry text)
        entry.location before outcome after) :
      EntryOutcome registry sink earlier entry before outcome after

/-- The outcomes of entries one after another, behind the entries before them. -/
inductive GenerationRun {σ : Type} (registry : Registry) (sink : Option (Sink σ)) :
    List Entry → List Entry → σ → List GenerationResult → σ → Prop where
  | done {earlier : List Entry} {state : σ} : GenerationRun registry sink earlier [] state [] state
  | next {earlier entries : List Entry} {entry : Entry} {before middle after : σ}
      {outcome : GenerationResult} {outcomes : List GenerationResult}
      (first : EntryOutcome registry sink earlier entry before outcome middle)
      (rest : GenerationRun registry sink (earlier ++ [entry]) entries middle outcomes after) :
      GenerationRun registry sink earlier (entry :: entries) before (outcome :: outcomes) after

/-- What the bindings module adds behind the entries. -/
inductive BindingsOutcome {σ : Type} (registry : Registry) (injectionModule : Option Text)
    (sink : Option (Sink σ)) (entries : List Entry) (artifacts : List Artifact) (before : σ) :
    GenerationResult → σ → Prop where
  /-- None is wanted, or no artifact declares a contract. -/
  | unwanted
      (absent : bindingsArtifact? registry.defaultPackage injectionModule artifacts = none) :
      BindingsOutcome registry injectionModule sink entries artifacts before {} before
  /-- It claims its module behind all entries. -/
  | emission {artifact : Artifact} {outcome : GenerationResult} {after : σ}
      (wanted : bindingsArtifact? registry.defaultPackage injectionModule artifacts =
        some artifact)
      (emitted : Emission sink (claimsOf registry entries) artifact
        ("injection module " ++ injectionModule.getD []) before outcome after) :
      BindingsOutcome registry injectionModule sink entries artifacts before outcome after

/-! ## Steps -/

/-- Two tables of modules agree on the first claim on every module. -/
def Agrees (taken claims : List TakenModule) : Prop :=
  ∀ module, claimOn taken module = claimOn claims module

namespace Agrees

variable {taken claims : List TakenModule} {claim : TakenModule}

/-- A claim on a free module is entered into both tables. -/
theorem enter (agrees : Agrees taken claims) : Agrees (taken ++ [claim]) (claims ++ [claim]) := by
  intro module
  have before := agrees module
  unfold claimOn at before ⊢
  rw [List.find?_append, List.find?_append, before]

/-- A claim on a module that is held changes no first claim. -/
theorem pass {kept : TakenModule} (agrees : Agrees taken claims)
    (held : claimOn claims claim.module = some kept) : Agrees taken (claims ++ [claim]) := by
  intro module
  rw [agrees module]
  unfold claimOn at held ⊢
  rw [List.find?_append]
  by_cases same : claim.module = module
  · rw [← same, held]
    rfl
  · simp [same]

end Agrees

/-- What was found before, and then an outcome. -/
def resultBehind (before outcome : GenerationResult) : GenerationResult :=
  ⟨before.artifacts ++ outcome.artifacts, before.diagnostics ++ outcome.diagnostics⟩

section Steps

open GenerationStep (Completes)

variable {σ : Type} {sink : Option (Sink σ)}

/-- An artifact has one of the four outcomes, and its claim is entered in any case. -/
theorem emit_emission {state : Generation σ} {artifact : Artifact} {location : Text}
    (proceeds : Proceeds sink (emit sink artifact location) state) {claims : List TakenModule}
    (agrees : Agrees state.taken claims) :
    ∃ outcome next, Completes (emit sink artifact location) state () next ∧
      Emission sink claims artifact location state.sinkState outcome next.sinkState ∧
      next.result = resultBehind state.result outcome ∧
      Agrees next.taken (claims ++ [claimOf artifact location]) := by
  have same := agrees (artifact.package, artifact.moduleName)
  cases held : claimOn claims (artifact.package, artifact.moduleName) with
  | some kept =>
    refine ⟨⟨[], [clashDiagnostic kept artifact location]⟩, _,
      completes_bind (takeModule_held location (same.trans held)) rfl, .clash held, ?_,
      agrees.pass held⟩
    simp [resultBehind]
  | none =>
    have taken := takeModule_free location (same.trans held)
    cases sink with
    | none =>
      refine ⟨⟨[artifact], []⟩, _, completes_bind taken (completes_bind deliver_none rfl),
        .listed held rfl, ?_, agrees.enter⟩
      simp [resultBehind]
    | some target =>
      cases written : (target.write state.sinkState artifact.package artifact.typeName
          artifact.text).outcome with
      | ok done =>
        refine ⟨⟨[artifact], []⟩, _,
          completes_bind taken (completes_bind (deliver_stored written) rfl),
          .stored held rfl written, ?_, agrees.enter⟩
        simp [resultBehind]
      | error fault =>
        have refusal := (proceeds.behind taken).lead.refusal written
        refine ⟨⟨[], [writeDiagnostic target.rule artifact fault]⟩, _,
          completes_bind taken (completes_bind (deliver_refused written refusal) rfl),
          .refused held rfl written, ?_, agrees.enter⟩
        simp [resultBehind]

variable {state : Generation σ}

/-- An entry that comes as far as a claim adds it to those before. -/
theorem claimsOf_append (registry : Registry) (earlier : List Entry) (entry : Entry) :
    claimsOf registry (earlier ++ [entry]) =
      claimsOf registry earlier ++ if Reaches registry entry then [entryClaim entry] else [] := by
  by_cases reaches : Reaches registry entry <;> simp [claimsOf, List.filter_append, reaches]

/-- One entry has one outcome, and the table of modules goes on agreeing with the claims
of the entries so far. -/
theorem generateEntry_outcome {registry : Registry} {entry : Entry}
    (proceeds : Proceeds sink (generateEntry registry sink entry) state)
    {earlier : List Entry} (agrees : Agrees state.taken (claimsOf registry earlier)) :
    ∃ outcome next, Completes (generateEntry registry sink entry) state () next ∧
      EntryOutcome registry sink earlier entry state.sinkState outcome next.sinkState ∧
      next.result = resultBehind state.result outcome ∧
      Agrees next.taken (claimsOf registry (earlier ++ [entry])) := by
  by_cases resolved : missingNames registry entry = []
  · have known := missingNames_eq_nil.mp resolved
    cases rendered : textOf registry entry with
    | error fault =>
      have unfit : ¬ Renderable entry := by
        rw [← textOf_isOk registry, rendered]
        simp
      have silent : ¬ Reaches registry entry := fun reaches => unfit reaches.2
      refine ⟨⟨[], [renderDiagnostic entry fault]⟩, _,
        completes_bind (artifactOf_fault resolved rendered) rfl,
        .unrenderable known unfit rendered, ?_, ?_⟩
      · simp [resultBehind]
      · rw [claimsOf_append, if_neg silent, List.append_nil]
        exact agrees
    | ok text =>
      have reaches : Reaches registry entry :=
        ⟨known, (textOf_isOk registry entry).mp ⟨text, rendered⟩⟩
      have found : Completes (artifactOf registry entry) state _ _ :=
        artifactOf_text resolved rendered
      obtain ⟨outcome, next, completes, emitted, result, entered⟩ :=
        emit_emission (proceeds.behind found) agrees
      refine ⟨outcome, next, completes_bind found completes,
        .emission reaches rendered emitted, result, ?_⟩
      rw [claimsOf_append, if_pos reaches]
      exact entered
  · have silent : ¬ Reaches registry entry := fun reaches =>
      resolved (missingNames_eq_nil.mpr reaches.1)
    refine ⟨⟨[], _⟩, _, completes_bind (artifactOf_missing resolved) rfl,
      .unresolved (missingNames_firstUses registry entry) resolved, ?_, ?_⟩
    · simp [resultBehind]
    · rw [claimsOf_append, if_neg silent, List.append_nil]
      exact agrees

/-! ## Runs -/

/-- The outcomes of a run one behind the other. -/
def resultOf (outcomes : List GenerationResult) : GenerationResult :=
  ⟨outcomes.flatMap GenerationResult.artifacts, outcomes.flatMap GenerationResult.diagnostics⟩

/-- The entries of a generation run through, each with its outcome. -/
theorem forM_run {registry : Registry} (earlier entries : List Entry) (state : Generation σ)
    (proceeds : Proceeds sink (entries.forM (generateEntry registry sink)) state)
    (agrees : Agrees state.taken (claimsOf registry earlier)) :
    ∃ outcomes next, Completes (entries.forM (generateEntry registry sink)) state () next ∧
      GenerationRun registry sink earlier entries state.sinkState outcomes next.sinkState ∧
      next.result = resultBehind state.result (resultOf outcomes) ∧
      Agrees next.taken (claimsOf registry (earlier ++ entries)) := by
  induction entries generalizing state earlier with
  | nil =>
    refine ⟨[], state, rfl, .done, ?_, ?_⟩
    · simp [resultBehind, resultOf]
    · simpa using agrees
  | cons entry entries inductionHypothesis =>
    obtain ⟨outcome, middle, first, settled, result, entered⟩ :=
      generateEntry_outcome proceeds.lead agrees
    obtain ⟨outcomes, next, rest, settledRest, resultRest, enteredRest⟩ :=
      inductionHypothesis _ _ (proceeds.behind first) entered
    refine ⟨outcome :: outcomes, next, completes_bind first rest, .next settled settledRest,
      ?_, ?_⟩
    · rw [resultRest, result]
      simp [resultBehind, resultOf]
    · rw [List.append_assoc] at enteredRest
      exact enteredRest

/-- The bindings module comes behind the entries. -/
theorem generateBindings_outcome {registry : Registry} {injectionModule : Option Text}
    (proceeds : Proceeds sink (generateBindings registry injectionModule sink) state)
    {entries : List Entry} (agrees : Agrees state.taken (claimsOf registry entries)) :
    ∃ outcome next, Completes (generateBindings registry injectionModule sink) state () next ∧
      BindingsOutcome registry injectionModule sink entries state.result.artifacts
        state.sinkState outcome next.sinkState ∧
      next.result = resultBehind state.result outcome := by
  cases wanted : bindingsArtifact? registry.defaultPackage injectionModule
      state.result.artifacts with
  | none =>
    refine ⟨{}, state, completes_bind get_completes ?_, .unwanted wanted, ?_⟩
    · simp only [wanted]
      rfl
    · simp [resultBehind]
  | some artifact =>
    have emitting := proceeds.behind get_completes
    simp only [wanted] at emitting
    obtain ⟨outcome, next, completes, emitted, result, -⟩ := emit_emission emitting agrees
    refine ⟨outcome, next, completes_bind get_completes ?_, .emission wanted emitted, result⟩
    simp only [wanted]
    exact completes

/-- An artifact leads to one finding or one listed artifact, not to both. -/
theorem Emission.single {claims : List TakenModule} {artifact : Artifact} {location : Text}
    {before after : σ} {outcome : GenerationResult}
    (emitted : Emission sink claims artifact location before outcome after) :
    outcome.artifacts.length + outcome.diagnostics.length = 1 := by
  cases emitted <;> rfl

/-- What the bindings module adds is at most one artifact or one finding. -/
theorem BindingsOutcome.atMostOne {registry : Registry} {injectionModule : Option Text}
    {entries : List Entry} {artifacts : List Artifact} {before after : σ}
    {outcome : GenerationResult}
    (settled : BindingsOutcome registry injectionModule sink entries artifacts before outcome
      after) : outcome.artifacts.length + outcome.diagnostics.length ≤ 1 := by
  cases settled with
  | unwanted absent => exact Nat.zero_le _
  | emission wanted emitted => exact Nat.le_of_eq emitted.single

/-- The result of a generation that is not stopped is the outcomes of the entries and then
what the bindings module adds. -/
theorem generateAll_run {registry : Registry} {injectionModule : Option Text} {start : σ}
    (proceeds : Proceeds sink (generateAll registry injectionModule sink)
      { sinkState := start }) :
    ∃ outcomes middle extra final,
      Completes (generateAll registry injectionModule sink) { sinkState := start } () final ∧
      GenerationRun registry sink [] (registry.entriesOf .generation) start outcomes middle ∧
      BindingsOutcome registry injectionModule sink (registry.entriesOf .generation)
        (resultOf outcomes).artifacts middle extra final.sinkState ∧
      final.result = resultBehind (resultOf outcomes) extra := by
  obtain ⟨outcomes, middle, listing, settled, result, entered⟩ :=
    forM_run [] (registry.entriesOf .generation) { sinkState := start } proceeds.lead (fun _ => rfl)
  obtain ⟨extra, next, binding, settledBindings, resultBindings⟩ :=
    generateBindings_outcome (proceeds.behind listing).lead entered
  have main : middle.result = resultOf outcomes := by
    rw [result]
    simp [resultBehind, resultOf]
  rw [main] at settledBindings resultBindings
  exact ⟨outcomes, middle.sinkState, extra,
    { next with log := next.log ++ [.finished next.result.summary] },
    completes_bind listing <| completes_bind binding <| completes_bind get_completes <|
      tell_completes _,
    settled, settledBindings, resultBindings⟩

/-- A registry that generates is frozen, and its generation is not stopped. -/
theorem proceeds_of_generate {registry : Registry} {injectionModule : Option Text} {start : σ}
    {result : GenerationResult}
    (generated : (registry.generate injectionModule sink start).outcome = .ok result) :
    registry.frozen = true ∧ Proceeds sink (generateAll registry injectionModule sink)
      { sinkState := start } := by
  unfold Registry.generate at generated
  split at generated
  · next frozen =>
    refine ⟨frozen, .inr ?_⟩
    unfold Completes
    generalize StateT.run (generateAll registry injectionModule sink).run
      { sinkState := start } = ran at *
    obtain ⟨outcome, final⟩ := ran
    cases outcome with
    | error fault => cases generated
    | ok done => exact ⟨done, final, rfl⟩
  · cases generated

/-- A frozen registry generates unless it is stopped, and the result is the outcomes of its
entries and then what the bindings module adds. -/
theorem generate_run_of {registry : Registry} (frozen : registry.frozen = true)
    {injectionModule : Option Text} {start : σ}
    (proceeds : Proceeds sink (generateAll registry injectionModule sink)
      { sinkState := start }) :
    ∃ outcomes middle extra,
      GenerationRun registry sink [] (registry.entriesOf .generation) start outcomes middle ∧
      BindingsOutcome registry injectionModule sink (registry.entriesOf .generation)
        (resultOf outcomes).artifacts middle extra
        (registry.generate injectionModule sink start).sinkState ∧
      (registry.generate injectionModule sink start).outcome =
        .ok (resultBehind (resultOf outcomes) extra) := by
  obtain ⟨outcomes, middle, extra, final, completes, settled, bindings, result⟩ :=
    generateAll_run proceeds
  have generated : registry.generate injectionModule sink start =
      ⟨final.sinkState, final.log, .ok final.result⟩ := by
    unfold Registry.generate
    rw [if_pos frozen, completes]
  refine ⟨outcomes, middle, extra, settled, ?_, ?_⟩
  · rw [generated]
    exact bindings
  · rw [generated, result]

/-- A frozen registry generates into every sink that does no more than refuse. -/
theorem generate_run (refuses : OnlyRefuses sink) {registry : Registry}
    (frozen : registry.frozen = true) (injectionModule : Option Text) (start : σ) :
    ∃ outcomes middle extra,
      GenerationRun registry sink [] (registry.entriesOf .generation) start outcomes middle ∧
      BindingsOutcome registry injectionModule sink (registry.entriesOf .generation)
        (resultOf outcomes).artifacts middle extra
        (registry.generate injectionModule sink start).sinkState ∧
      (registry.generate injectionModule sink start).outcome =
        .ok (resultBehind (resultOf outcomes) extra) :=
  generate_run_of frozen (.inl refuses)

end Steps

end Generation

open Generation

/-- A generation is accounted for to the last finding. The entries to generate are taken
by package and name; each has its one outcome; artifacts and findings are those of the
outcomes in that order, and behind them at most one more for the bindings module. The
sink goes from outcome to outcome and is asked by no entry that is passed over. -/
theorem generate_accounts {σ : Type} (registry : Registry) (injectionModule : Option Text)
    (sink : Option (Sink σ)) (start : σ) (frozen : registry.frozen = true)
    (refuses : OnlyRefuses sink) :
    (registry.entriesOf .generation).Perm
        (registry.entries.filter (fun entry => decide (entry.origin = .generation))) ∧
      (registry.entriesOf .generation).Pairwise
        (fun earlier later => ¬ Precedes later.place earlier.place) ∧
      ∃ outcomes middle extra,
        GenerationRun registry sink [] (registry.entriesOf .generation) start outcomes middle ∧
        BindingsOutcome registry injectionModule sink (registry.entriesOf .generation)
          (resultOf outcomes).artifacts middle extra
          (registry.generate injectionModule sink start).sinkState ∧
        extra.artifacts.length + extra.diagnostics.length ≤ 1 ∧
        (registry.generate injectionModule sink start).outcome =
          .ok (resultBehind (resultOf outcomes) extra) := by
  obtain ⟨outcomes, middle, extra, settled, bindings, result⟩ :=
    generate_run refuses frozen injectionModule start
  exact ⟨registry.entriesOf_perm _, registry.entriesOf_sorted _, outcomes, middle, extra, settled,
    bindings, bindings.atMostOne, result⟩

/-- A registry of one scalar. -/
def dateRegistry : Registry :=
  { defaultPackage := "ns", frozen := true,
    entries := [⟨.scalar ⟨"Date", [], none, .unknown⟩, "s.graphql", "ns", .generation⟩] }

/-- A sink that keeps modules in memory and refuses those of the given types. -/
def refusingSink (refused : List Text) (message : Text) : Sink MemoryStore :=
  ⟨"FailingSink", fun store package typeName text =>
    if refused.contains typeName then ⟨store, [], .error (.refused message)⟩
    else ⟨store.put package typeName text, [], .ok ()⟩⟩

/-- Memory that is told to fail fails by refusing. -/
theorem onlyRefuses_refusingSink (refused : List Text) (message : Text) :
    OnlyRefuses (some (refusingSink refused message)) := by
  rintro target ⟨⟩ state package typeName text fault failed
  dsimp only [refusingSink] at failed
  split at failed
  · cases failed
    rfl
  · cases failed

/-- The accounting of one scalar whose module the sink refuses. -/
theorem generate_accounts_refused :
    dateRegistry.frozen = true ∧ OnlyRefuses (some (refusingSink ["Date"] "disk full")) ∧
      ∃ outcomes middle extra,
        GenerationRun dateRegistry (some (refusingSink ["Date"] "disk full")) []
          (dateRegistry.entriesOf .generation) {} outcomes middle ∧
        extra.artifacts.length + extra.diagnostics.length ≤ 1 ∧
        (dateRegistry.generate none (some (refusingSink ["Date"] "disk full")) {}).outcome =
          .ok (resultBehind (resultOf outcomes) extra) := by
  have refuses := onlyRefuses_refusingSink ["Date"] "disk full"
  obtain ⟨-, -, outcomes, middle, extra, settled, -, single, result⟩ :=
    generate_accounts dateRegistry none (some (refusingSink ["Date"] "disk full")) {} rfl refuses
  exact ⟨rfl, refuses, outcomes, middle, extra, settled, single, result⟩

/-- A schema block as an entry of its own. A batch passes such a definition over, but
nothing keeps it from being inserted by itself. -/
def blockEntry : Entry :=
  ⟨.schema ⟨[⟨"query", ⟨"Q", .unknown⟩, .unknown⟩], [], none, .unknown⟩, "s.graphql", "ns",
    .generation⟩

/-- The registry that holds the schema block and nothing else. -/
def blockRegistry : Registry := { defaultPackage := "ns", entries := [blockEntry], frozen := true }

/-- A schema block mentions no unknown type, binds no reserved name and has no earlier entry
to clash with, and the sink would store every text; still it has a finding and no artifact. -/
theorem blockRegistry_generates_nothing :
    (({ defaultPackage := "ns" } : Registry).insert blockEntry).value =
        .ok { blockRegistry with frozen := false } ∧
      (∀ name ∈ blockEntry.definition.mentions, ¬ Unknown blockRegistry blockEntry name) ∧
      (∀ name ∈ Render.boundNames blockEntry.definition, name ∉ Render.reservedNames) ∧
      blockRegistry.entriesOf .generation = [blockEntry] ∧
      (blockRegistry.generate none (some memorySink) {}).outcome =
        .ok ⟨[], [renderDiagnostic blockEntry (.notAType .schema [])]⟩ := by
  have listed : blockRegistry.entriesOf .generation = [blockEntry] := by
    simp [Registry.entriesOf, blockRegistry, blockEntry]
  refine ⟨rfl, by decide, by decide, listed, ?_⟩
  unfold Registry.generate generateAll
  rw [listed]
  rfl

end SchemaForge

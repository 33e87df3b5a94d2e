import SchemaForge.Generation

/-!
# Steps of a generation

What each step of a generation does to its state, one lemma for each way a step can
go. A step completes, in a state that is given outright; only a sink that fails in a
way that is no refusal keeps a step from completing, and such sinks are left out here.

The lemmas say nothing about whole runs. What the entries of a run have to do with each
other is the subject of the accounting of a generation.
-/

namespace SchemaForge

/-- A step gives a value and leaves a state behind. -/
def GenerationStep.Completes {σ α : Type} (step : GenerationStep σ α) (state : Generation σ)
    (value : α) (next : Generation σ) : Prop :=
  StateT.run step.run state = (.ok value, next)

/-- A sink whose every failure is a refusal. No sink at all is one too. -/
def OnlyRefuses {σ : Type} (sink : Option (Sink σ)) : Prop :=
  ∀ target, sink = some target → ∀ state package typeName text fault,
    (target.write state package typeName text).outcome = .error fault → fault.isRefusal = true

/-- Without a sink nothing fails. -/
theorem onlyRefuses_none {σ : Type} : OnlyRefuses (none : Option (Sink σ)) := by
  intro target given
  cases given

/-- Memory takes every text. -/
theorem onlyRefuses_memorySink : OnlyRefuses (some memorySink) := by
  rintro target ⟨⟩ state package typeName text fault failed
  cases failed

namespace Generation

open GenerationStep (Completes)

variable {σ α β : Type} {state middle next : Generation σ}

/-! ## Sequences -/

/-- One step behind another. -/
theorem completes_bind {first : GenerationStep σ α} {second : α → GenerationStep σ β}
    {given : α} {value : β} (before : Completes first state given middle)
    (behind : Completes (second given) middle value next) :
    Completes (first >>= second) state value next := by
  unfold Completes at *
  rw [ExceptT.run_bind, StateT.run_bind, before]
  exact behind

/-- What completes as a whole completes step by step. -/
theorem bind_completes {first : GenerationStep σ α} {second : α → GenerationStep σ β} {value : β}
    (whole : Completes (first >>= second) state value next) :
    ∃ given middle, Completes first state given middle ∧
      Completes (second given) middle value next := by
  unfold Completes at *
  rw [ExceptT.run_bind, StateT.run_bind] at whole
  generalize StateT.run first.run state = ran at *
  obtain ⟨outcome, middle⟩ := ran
  cases outcome with
  | error fault => cases whole
  | ok given => exact ⟨given, middle, rfl, whole⟩

/-- Nothing stops a step: the sink does no more than refuse, or the step is known to
complete. -/
def Proceeds (sink : Option (Sink σ)) (step : GenerationStep σ α) (state : Generation σ) : Prop :=
  OnlyRefuses sink ∨ ∃ value next, Completes step state value next

namespace Proceeds

variable {sink : Option (Sink σ)} {first : GenerationStep σ α} {second : α → GenerationStep σ β}

/-- What does not stop a sequence does not stop its first step. -/
theorem lead (proceeds : Proceeds sink (first >>= second) state) : Proceeds sink first state := by
  obtain refuses | ⟨value, next, whole⟩ := proceeds
  · exact .inl refuses
  · obtain ⟨given, middle, before, -⟩ := bind_completes whole
    exact .inr ⟨given, middle, before⟩

/-- What does not stop a sequence does not stop it behind its first step. -/
theorem behind {given : α} (proceeds : Proceeds sink (first >>= second) state)
    (before : Completes first state given middle) : Proceeds sink (second given) middle := by
  obtain refuses | ⟨value, next, whole⟩ := proceeds
  · exact .inl refuses
  · obtain ⟨given', middle', same, behind⟩ := bind_completes whole
    obtain ⟨⟨rfl⟩, rfl⟩ := Prod.mk.inj (before.symm.trans same)
    exact .inr ⟨value, next, behind⟩

end Proceeds

/-- Looking at the state keeps it. -/
theorem get_completes : Completes (get : GenerationStep σ (Generation σ)) state state state := rfl

/-- A state that is set is the next one. -/
theorem set_completes : Completes (set next : GenerationStep σ PUnit) state ⟨⟩ next := rfl

/-- Findings are added to those before. -/
theorem report_completes (diagnostics : List Diagnostic) :
    Completes (report diagnostics) state ()
      { state with
        result :=
          { state.result with diagnostics := state.result.diagnostics ++ diagnostics } } := rfl

/-- An event is added to those before. -/
theorem tell_completes (event : LogEvent) :
    Completes (tell event) state () { state with log := state.log ++ [event] } := rfl

/-! ## The artifact of an entry -/

/-- The artifact of an entry that is rendered to a text. -/
def artifactFor (registry : Registry) (entry : Entry) (text : Text) : Artifact :=
  { package := entry.package, typeName := entry.name, text := text,
    dependencies := dependencies registry entry, contracts := Contracts.ofEntry entry,
    computedFields := entry.definition.computedFields.map Field.name }

/-- The text of the module of an entry. -/
def textOf (registry : Registry) (entry : Entry) : Except RenderFault Text :=
  Render.moduleText indentWidth entry (dependencies registry entry) (Contracts.ofEntry entry)

variable {registry : Registry} {entry : Entry}

/-- An unknown type is reported and the entry passed over. -/
theorem artifactOf_missing (missing : missingNames registry entry ≠ []) :
    Completes (artifactOf registry entry) state none
      { state with
        result :=
          { state.result with
            diagnostics := state.result.diagnostics ++
              (missingNames registry entry).map (fun name =>
                (Problem.unresolvedReference entry.name name entry.location).diagnostic) },
        log := state.log ++ [.notGenerated entry.name] } := by
  have some : (missingNames registry entry).isEmpty = false := by simpa using missing
  unfold artifactOf
  simp only [some]
  exact completes_bind (report_completes _) (completes_bind (tell_completes _) rfl)

/-- An entry that cannot be rendered is reported and passed over. -/
theorem artifactOf_fault {fault : RenderFault} (known : missingNames registry entry = [])
    (failed : textOf registry entry = .error fault) :
    Completes (artifactOf registry entry) state none
      { state with
        result :=
          { state.result with
            diagnostics := state.result.diagnostics ++ [renderDiagnostic entry fault] } } := by
  unfold textOf at failed
  unfold artifactOf
  simp only [known, List.isEmpty_nil, ↓reduceIte, failed]
  exact completes_bind (report_completes _) rfl

/-- An entry that can be rendered has an artifact. -/
theorem artifactOf_text {text : Text} (known : missingNames registry entry = [])
    (rendered : textOf registry entry = .ok text) :
    Completes (artifactOf registry entry) state (some (artifactFor registry entry text))
      { state with
        log := state.log ++
          [.generated entry.package entry.name (dependencies registry entry).length] } := by
  unfold textOf at rendered
  unfold artifactOf
  simp only [known, List.isEmpty_nil, ↓reduceIte, rendered]
  exact completes_bind (tell_completes _) rfl

/-! ## Modules and sinks -/

/-- The first claim on a module. -/
def claimOn (claims : List TakenModule) (module : Text × Text) : Option TakenModule :=
  claims.find? (fun held => decide (held.module = module))

/-- The claim that an artifact makes on its module. -/
def claimOf (artifact : Artifact) (location : Text) : TakenModule :=
  ⟨(artifact.package, artifact.moduleName), artifact.typeName, location⟩

/-- The finding about an artifact whose module has been claimed. -/
def clashDiagnostic (kept : TakenModule) (artifact : Artifact) (location : Text) : Diagnostic :=
  (Problem.moduleClash artifact.qualifiedName kept.typeName kept.location artifact.typeName
    location).diagnostic

variable {artifact : Artifact}

/-- A module that nobody has claimed is taken. -/
theorem takeModule_free (location : Text)
    (free : claimOn state.taken (artifact.package, artifact.moduleName) = none) :
    Completes (takeModule artifact location) state true
      { state with taken := state.taken ++ [claimOf artifact location] } := by
  refine completes_bind get_completes ?_
  unfold claimOn at free
  simp only [free]
  rfl

/-- A module that has been claimed stays with the first that claimed it. -/
theorem takeModule_held {kept : TakenModule} (location : Text)
    (held : claimOn state.taken (artifact.package, artifact.moduleName) = some kept) :
    Completes (takeModule artifact location) state false
      { state with
        result :=
          { state.result with
            diagnostics := state.result.diagnostics ++
              [clashDiagnostic kept artifact location] },
        log := state.log ++
          [.clashed (Problem.moduleClash artifact.qualifiedName kept.typeName kept.location
            artifact.typeName location).detail] } := by
  unfold claimOn at held
  refine completes_bind get_completes ?_
  simp only [held]
  exact completes_bind (tell_completes _) (completes_bind (report_completes _) rfl)

variable {target : Sink σ}

/-- Without a sink every artifact is delivered. -/
theorem deliver_none : Completes (deliver none artifact) state true state := rfl

/-- A sink that stores the text delivers it. -/
theorem deliver_stored
    (stored : (target.write state.sinkState artifact.package artifact.typeName
      artifact.text).outcome = .ok ()) :
    Completes (deliver (some target) artifact) state true
      { state with
        sinkState := (target.write state.sinkState artifact.package artifact.typeName
          artifact.text).state,
        log := state.log ++ (target.write state.sinkState artifact.package artifact.typeName
          artifact.text).log } := by
  refine completes_bind get_completes (completes_bind set_completes ?_)
  simp only [stored]
  rfl

/-- A refusal of the sink is reported. What the sink did before it refused stays done. -/
theorem deliver_refused {fault : FileFault}
    (failed : (target.write state.sinkState artifact.package artifact.typeName
      artifact.text).outcome = .error fault) (refusal : fault.isRefusal = true) :
    Completes (deliver (some target) artifact) state false
      { state with
        sinkState := (target.write state.sinkState artifact.package artifact.typeName
          artifact.text).state,
        log := state.log ++ (target.write state.sinkState artifact.package artifact.typeName
          artifact.text).log,
        result :=
          { state.result with
            diagnostics := state.result.diagnostics ++
              [writeDiagnostic target.rule artifact fault] } } := by
  refine completes_bind get_completes (completes_bind set_completes ?_)
  simp only [failed, refusal, ↓reduceIte]
  exact completes_bind (report_completes _) rfl

/-- A delivery that is not stopped fails by a refusal, if it fails. -/
theorem Proceeds.refusal {fault : FileFault}
    (proceeds : Proceeds (some target) (deliver (some target) artifact) state)
    (failed : (target.write state.sinkState artifact.package artifact.typeName
      artifact.text).outcome = .error fault) : fault.isRefusal = true := by
  obtain refuses | ⟨value, next, completes⟩ := proceeds
  · exact refuses target rfl _ _ _ _ _ failed
  · cases passed : fault.isRefusal with
    | true => rfl
    | false =>
      obtain ⟨_, _, looked, completes⟩ := bind_completes completes
      cases looked
      obtain ⟨_, _, _, completes⟩ := bind_completes completes
      simp only [failed, passed, Bool.false_eq_true, ↓reduceIte] at completes
      cases completes

end Generation

end SchemaForge

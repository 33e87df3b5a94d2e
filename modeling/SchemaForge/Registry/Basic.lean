import SchemaForge.Log

/-!
# The type registry

The registry collects the entries of all schemas, those to generate and those
only referred to, under one set of names. A name is written once: a later
definition of it is reported and dropped. A batch of definitions never stops at a
problem; the problems are returned and also kept. Once frozen, the registry takes
no further entry.
-/

namespace SchemaForge

/-- The entries known so far, in the order they were added. -/
structure Registry where
  /-- The package of definitions that name none. -/
  defaultPackage : Text
  /-- The entries, each with a name of its own. -/
  entries : List Entry := []
  /-- The problems of all batches so far. -/
  problems : List Problem := []
  /-- Whether insertion is over. -/
  frozen : Bool := false

namespace Registry

/-- The entry of a name, whatever its origin. -/
def find? (registry : Registry) (name : Text) : Option Entry :=
  registry.entries.find? (fun entry => decide (entry.name = name))

/-- The number of entries. -/
def size (registry : Registry) : Nat := registry.entries.length

/-- The problem of every insertion into a frozen registry. -/
def frozenProblem : Problem :=
  .registryFrozen "Type registry is frozen; no further insertions are allowed"

/-- No further entry is taken. -/
def freeze (registry : Registry) : Registry := { registry with frozen := true }

/-- Adds an entry unless its name is taken or the registry is frozen. -/
def insert (registry : Registry) (entry : Entry) : Logged (Except Problem Registry) :=
  if registry.frozen then ⟨.error frozenProblem, []⟩
  else
    match registry.find? entry.name with
    | none =>
      ⟨.ok { registry with entries := registry.entries ++ [entry] }, [.registered entry]⟩
    | some kept =>
      ⟨.error (.duplicateType entry.name kept.location entry.location), [.rejected kept entry]⟩

/-- The state of a batch that is being added. -/
structure Batch where
  /-- The registry with the entries added so far. -/
  registry : Registry
  /-- The problems met so far. -/
  problems : List Problem
  /-- The events so far. -/
  log : List LogEvent

/-- Adds one definition of a batch. A definition without a type name is passed over,
and a problem is noted. -/
def Batch.add (source : Text) (origin : Origin) (batch : Batch) (definition : Definition) :
    Batch :=
  match Entry.build definition source batch.registry.defaultPackage origin with
  | .error problem => { batch with problems := batch.problems ++ [problem] }
  | .ok entry =>
    if entry.name.isEmpty then
      { batch with log := batch.log ++ [.skipped entry.kind entry.location] }
    else
      let inserted := batch.registry.insert entry
      match inserted.value with
      | .ok registry => ⟨registry, batch.problems, batch.log ++ inserted.log⟩
      | .error problem =>
        ⟨batch.registry, batch.problems ++ [problem], batch.log ++ inserted.log⟩

/-- Adds all definitions of one schema. The problems are returned and kept. -/
def addBatch (registry : Registry) (origin : Origin) (source : Text)
    (definitions : List Definition) : Logged (Except Problem (Registry × List Problem)) :=
  if registry.frozen then ⟨.error frozenProblem, []⟩
  else
    let batch := definitions.foldl (Batch.add source origin) ⟨registry, [], []⟩
    ⟨.ok ({ batch.registry with problems := registry.problems ++ batch.problems },
      batch.problems), batch.log⟩

/-- The entries of one origin, by package and name. -/
def entriesOf (registry : Registry) (origin : Origin) : List Entry :=
  (registry.entries.filter (fun entry => decide (entry.origin = origin))).mergeSort Entry.le

/-- All entries: those to generate, then those referred to. -/
def describe (registry : Registry) : List Entry :=
  registry.entriesOf .generation ++ registry.entriesOf .reference

/-- The state of a registry on one line. -/
def summary (registry : Registry) : Text :=
  Text.concat ["TypeRegistry(entries=", Text.ofNat registry.size, ", frozen=",
    if registry.frozen then "True" else "False", ", errors=",
    Text.ofNat registry.problems.length, ")"]

end Registry

end SchemaForge

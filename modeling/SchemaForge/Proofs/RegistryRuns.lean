import SchemaForge.Proofs.EntryOrder
import SchemaForge.Proofs.RegistryLoading

/-!
# Runs of a registry

A registry is used by calls: batches of definitions to refer to or to generate, and the
call that freezes it. A definition of a batch is an offer. It is entered if its name is
free; otherwise it is noted as a problem, or passed over because it defines no type.

`Registry.Account` says what a registry has to show for the offers made to it: who holds
a name, and how many offers became entries, problems or nothing. One offer keeps the
account, so every sequence of calls does. The definitions are arbitrary: nothing assumes
that they were read from a text.

Calls are made one after another. That threads may share a registry is not considered.
-/

namespace SchemaForge

/-! ## Offers -/

/-- A definition as it is offered to a registry. -/
structure Offer where
  /-- Whether the type is generated or only referred to. -/
  origin : Origin
  /-- The schema that the definition stands in. -/
  source : Text
  /-- The definition. -/
  definition : Definition

namespace Offer

/-- The name of the type that is offered, empty if the definition defines none. -/
def name (offer : Offer) : Text := offer.definition.typeName

/-- The entry of an offer, or the problem with it. -/
def build (defaultPackage : Text) (offer : Offer) : Except Problem Entry :=
  Entry.build offer.definition offer.source defaultPackage offer.origin

/-- The offer has an entry but no name of a type, so it is passed over. -/
def isSkipped (defaultPackage : Text) (offer : Offer) : Bool :=
  offer.name.isEmpty && (offer.build defaultPackage).isOk

variable {defaultPackage : Text} {offer : Offer} {entry : Entry}

/-- An entry has the name of its offer. -/
theorem name_of_build (built : offer.build defaultPackage = .ok entry) :
    entry.name = offer.name := by
  unfold Entry.name name
  rw [(Entry.build_eq_ok.mp built).2.1]

/-- A definition that defines no type is passed over unless there is a problem with it.
Where every type has a name, no other definition is. -/
theorem isSkipped_iff (named : offer.definition.DefinesType → offer.name ≠ []) :
    offer.isSkipped defaultPackage = true ↔
      ¬ offer.definition.DefinesType ∧ ∃ entry, offer.build defaultPackage = .ok entry := by
  have nameless : offer.name = [] ↔ ¬ offer.definition.DefinesType := by
    constructor
    · intro empty defines
      exact named defines empty
    · intro undefined
      by_cases empty : offer.name = []
      · exact empty
      · exact absurd (Definition.definesType_of_typeName empty) undefined
  unfold isSkipped
  rw [Bool.and_eq_true, List.isEmpty_iff, nameless]
  cases offer.build defaultPackage <;> simp [Except.isOk, Except.toBool]

end Offer

/-- The entry of the first offer of a name that has an entry. -/
def firstBuilt? (defaultPackage : Text) (offers : List Offer) (name : Text) : Option Entry :=
  offers.findSome? (fun offer =>
    if offer.name = name then (offer.build defaultPackage).toOption else none)

/-- One more offer counts only for a name that has no entry yet. -/
theorem firstBuilt?_append (defaultPackage : Text) (offers more : List Offer) (name : Text) :
    firstBuilt? defaultPackage (offers ++ more) name =
      (firstBuilt? defaultPackage offers name).or (firstBuilt? defaultPackage more name) :=
  List.findSome?_append

/-! ## Accounts -/

/-- What a registry has to show for the offers made to it. -/
structure Registry.Account (registry : Registry) (defaultPackage : Text)
    (offers : List Offer) : Prop where
  /-- The package of definitions that name none has stayed. -/
  package : registry.defaultPackage = defaultPackage
  /-- No name occurs twice. -/
  distinct : (registry.entries.map Entry.name).Nodup
  /-- No entry is without a name. -/
  nameless : registry.find? [] = none
  /-- A name belongs to the first offer of it that has an entry. -/
  first : ∀ name, name ≠ [] → registry.find? name = firstBuilt? defaultPackage offers name
  /-- Every offer is an entry or a problem, or is passed over. -/
  count : offers.length = registry.size + registry.problems.length +
    offers.countP (Offer.isSkipped defaultPackage)
  /-- A name that was offered again is reported with the place of its holder. -/
  duplicates : ∀ name holder other, .duplicateType name holder other ∈ registry.problems →
    ∃ kept, registry.find? name = some kept ∧ holder = kept.location

namespace Registry

variable {registry : Registry} {defaultPackage : Text} {offers : List Offer}

/-- A registry that was offered nothing. -/
theorem Account.start (defaultPackage : Text) :
    ({ defaultPackage := defaultPackage } : Registry).Account defaultPackage [] where
  package := rfl
  distinct := List.nodup_nil
  nameless := rfl
  first := fun _ _ => rfl
  count := rfl
  duplicates := by
    intro name holder other noted
    cases noted

/-- Freezing keeps what a registry has to show. -/
theorem Account.freeze (account : registry.Account defaultPackage offers) :
    registry.freeze.Account defaultPackage offers :=
  ⟨account.package, account.distinct, account.nameless, account.first, account.count,
    account.duplicates⟩

/-- An entry behind the others is found by its name if no other is. -/
theorem find?_entered (entry : Entry) (name : Text) :
    ({ registry with entries := registry.entries ++ [entry] } : Registry).find? name =
      (registry.find? name).or (if entry.name = name then some entry else none) := by
  unfold find?
  rw [List.find?_append]
  by_cases same : entry.name = name <;> simp [same]

/-- A definition without a proper package is not a second definition of a name. -/
theorem build_error_ne_duplicate {definition : Definition} {source : Text} {origin : Origin}
    {name holder other : Text} :
    Entry.build definition source defaultPackage origin ≠
      .error (.duplicateType name holder other) := by
  unfold Entry.build resolvePackage
  intro failed
  repeat' split at failed
  all_goals simp_all

end Registry

/-! ## One offer -/

namespace Registry.Account

variable {registry : Registry} {defaultPackage : Text} {offers : List Offer} {offer : Offer}

/-- An offer that is not entered leaves every name to its holder. It is a problem or is
passed over, and not both. -/
theorem unentered {noted : List Problem} (account : registry.Account defaultPackage offers)
    (ineffective : ∀ name, name ≠ [] → registry.find? name = none →
      firstBuilt? defaultPackage [offer] name = none)
    (single : noted.length + [offer].countP (Offer.isSkipped defaultPackage) = 1)
    (placed : ∀ name holder other, .duplicateType name holder other ∈ noted →
      ∃ kept, registry.find? name = some kept ∧ holder = kept.location) :
    ({ registry with problems := registry.problems ++ noted } : Registry).Account defaultPackage
      (offers ++ [offer]) where
  package := account.package
  distinct := account.distinct
  nameless := account.nameless
  first := by
    intro name spelled
    change registry.find? name = _
    rw [firstBuilt?_append, ← account.first name spelled]
    cases found : registry.find? name with
    | some kept => rfl
    | none => rw [ineffective name spelled found]; rfl
  count := by
    have counted := account.count
    rw [List.length_append, List.countP_append, List.length_append, List.length_singleton]
    change offers.length + 1 = registry.size + (registry.problems.length + noted.length) + _
    omega
  duplicates := by
    intro name holder other member
    obtain before | now := List.mem_append.mp member
    · exact account.duplicates name holder other before
    · exact placed name holder other now

/-- An offer of a free name gets the name. -/
theorem entered {entry : Entry} (account : registry.Account defaultPackage offers)
    (unfrozen : registry.frozen = false) (built : offer.build defaultPackage = .ok entry)
    (spelled : entry.name ≠ []) (free : registry.find? entry.name = none) :
    ({ registry with entries := registry.entries ++ [entry] } : Registry).Account defaultPackage
      (offers ++ [offer]) where
  package := account.package
  distinct := (insert_free ⟨unfrozen, account.distinct⟩ free).2.distinct
  nameless := by
    rw [find?_entered, account.nameless, if_neg spelled]
    rfl
  first := by
    intro name wanted
    have same : entry.name = offer.name := Offer.name_of_build built
    rw [find?_entered, firstBuilt?_append, account.first name wanted, same]
    by_cases asked : offer.name = name <;> simp [firstBuilt?, asked, built, Except.toOption]
  count := by
    have counted := account.count
    have unskipped : offer.isSkipped defaultPackage = false := by
      have named : offer.name ≠ [] := Offer.name_of_build built ▸ spelled
      simp [Offer.isSkipped, named]
    simp only [size, List.length_append, List.countP_append, List.length_singleton,
      List.countP_singleton, unskipped, Bool.false_eq_true, ↓reduceIte] at counted ⊢
    omega
  duplicates := by
    intro name holder other noted
    obtain ⟨kept, found, placed⟩ := account.duplicates name holder other noted
    refine ⟨kept, ?_, placed⟩
    rw [find?_entered, found]
    rfl

end Registry.Account

namespace Registry.Batch

variable {batch : Registry.Batch} {defaultPackage : Text} {offers : List Offer}
  {earlier : List Problem}

/-- The registry of a batch, with the problems of the batch behind those before it. -/
def behind (earlier : List Problem) (batch : Registry.Batch) : Registry :=
  { batch.registry with problems := earlier ++ batch.problems }

/-- One more definition of a batch keeps the account, and freezes nothing. -/
theorem add_account (offer : Offer) (unfrozen : batch.registry.frozen = false)
    (account : (batch.behind earlier).Account defaultPackage offers) :
    ((batch.add offer.source offer.origin offer.definition).behind earlier).Account
        defaultPackage (offers ++ [offer]) ∧
      (batch.add offer.source offer.origin offer.definition).registry.frozen = false := by
  have added := add_added offer.source offer.origin offer.definition ⟨unfrozen, account.distinct⟩
  have package : batch.registry.defaultPackage = defaultPackage := account.package
  unfold behind
  generalize (batch.add offer.source offer.origin offer.definition).registry = after at added ⊢
  generalize (batch.add offer.source offer.origin offer.definition).problems = problems at added ⊢
  cases added with
  | @refused problem failed =>
    have unbuilt : offer.build defaultPackage = .error problem := package ▸ failed
    refine ⟨?_, unfrozen⟩
    rw [← List.append_assoc]
    refine account.unentered ?_ ?_ ?_
    · intro name _ _
      simp [firstBuilt?, unbuilt, Except.toOption]
    · simp [Offer.isSkipped, unbuilt, Except.isOk, Except.toBool]
    · intro name holder other noted
      obtain rfl := List.mem_singleton.mp noted
      exact absurd failed build_error_ne_duplicate
  | @skipped entry built nameless =>
    have built : offer.build defaultPackage = .ok entry := package ▸ built
    have unnamed : offer.name = [] := Offer.name_of_build built ▸ nameless
    refine ⟨?_, unfrozen⟩
    rw [← List.append_nil (earlier ++ batch.problems)]
    refine account.unentered ?_ ?_ ?_
    · intro name spelled _
      have unlike : offer.name ≠ name := fun same => spelled (same ▸ unnamed)
      simp [firstBuilt?, unlike]
    · simp [Offer.isSkipped, built, unnamed, Except.isOk, Except.toBool]
    · intro name holder other noted
      cases noted
  | @duplicate entry kept built spelled taken =>
    have same : entry.name = offer.name := Offer.name_of_build built
    rw [same] at spelled taken ⊢
    refine ⟨?_, unfrozen⟩
    rw [← List.append_assoc]
    refine account.unentered ?_ ?_ ?_
    · intro name _ free
      have unlike : offer.name ≠ name := by
        rintro rfl
        exact absurd (taken.symm.trans free) (by simp)
      simp [firstBuilt?, unlike]
    · simp [Offer.isSkipped, spelled]
    · intro name holder other noted
      obtain ⟨rfl, rfl, rfl⟩ := Problem.duplicateType.inj (List.mem_singleton.mp noted)
      exact ⟨kept, taken, rfl⟩
  | entered built spelled free =>
    exact ⟨account.entered unfrozen (package ▸ built) spelled free, unfrozen⟩

/-- The definitions of a batch keep the account, one after another. -/
theorem foldl_account (source : Text) (origin : Origin) (definitions : List Definition)
    (batch : Registry.Batch) (offers : List Offer) (unfrozen : batch.registry.frozen = false)
    (account : (batch.behind earlier).Account defaultPackage offers) :
    ((definitions.foldl (Registry.Batch.add source origin) batch).behind earlier).Account
        defaultPackage (offers ++ definitions.map (Offer.mk origin source)) ∧
      (definitions.foldl (Registry.Batch.add source origin) batch).registry.frozen = false := by
  induction definitions generalizing batch offers with
  | nil =>
    rw [List.map_nil, List.append_nil]
    exact ⟨account, unfrozen⟩
  | cons definition definitions inductionHypothesis =>
    obtain ⟨next, still⟩ := add_account ⟨origin, source, definition⟩ unfrozen account
    have rest := inductionHypothesis _ _ still next
    rw [List.append_assoc] at rest
    exact rest

end Registry.Batch

/-! ## Calls -/

/-- A call on a registry. -/
inductive RegistryCall where
  /-- The definitions of one schema are added. -/
  | add (origin : Origin) (source : Text) (definitions : List Definition)
  /-- Insertion is over. -/
  | freeze

namespace RegistryCall

/-- The answer of a call: the registry afterwards and the problems that are returned, or
the problem that the call fails with. -/
def answer (registry : Registry) : RegistryCall → Except Problem (Registry × List Problem)
  | add origin source definitions => (registry.addBatch origin source definitions).value
  | freeze => .ok (registry.freeze, [])

/-- The registry behind a call. A call that fails leaves it as it was. -/
def after (call : RegistryCall) (registry : Registry) : Registry :=
  match call.answer registry with
  | .ok (next, _) => next
  | .error _ => registry

/-- The problems that a call returns. A call that fails returns none. -/
def returned (call : RegistryCall) (registry : Registry) : List Problem :=
  match call.answer registry with
  | .ok (_, problems) => problems
  | .error _ => []

/-- The registry behind some calls. -/
def afterAll (calls : List RegistryCall) (registry : Registry) : Registry :=
  calls.foldl (fun registry call => call.after registry) registry

/-- The problems that calls return, one call after another. -/
def returnedAll : List RegistryCall → Registry → List Problem
  | [], _ => []
  | call :: calls, registry => call.returned registry ++ returnedAll calls (call.after registry)

/-- The offers of the calls before the registry is frozen. -/
def offers : List RegistryCall → List Offer
  | [] => []
  | freeze :: _ => []
  | add origin source definitions :: calls =>
    definitions.map (Offer.mk origin source) ++ offers calls

variable {registry : Registry}

/-- Further calls only add to the offers. -/
theorem offers_prefix (calls more : List RegistryCall) :
    ∃ further, offers (calls ++ more) = offers calls ++ further := by
  induction calls with
  | nil => exact ⟨offers more, rfl⟩
  | cons call calls inductionHypothesis =>
    cases call with
    | freeze => exact ⟨[], rfl⟩
    | add origin source definitions =>
      obtain ⟨further, same⟩ := inductionHypothesis
      refine ⟨further, ?_⟩
      rw [List.cons_append, offers, offers, same, List.append_assoc]

/-- A frozen registry takes no batch, whatever is in it. -/
theorem answer_frozen (frozen : registry.frozen = true) (origin : Origin) (source : Text)
    (definitions : List Definition) :
    (add origin source definitions).answer registry = .error Registry.frozenProblem := by
  unfold answer Registry.addBatch
  simp only [frozen, ↓reduceIte]

/-- A registry that is not frozen takes every batch. -/
theorem answer_unfrozen (unfrozen : registry.frozen = false) (origin : Origin) (source : Text)
    (definitions : List Definition) :
    (add origin source definitions).answer registry =
      .ok ((definitions.foldl (Registry.Batch.add source origin) ⟨registry, [], []⟩).behind
          registry.problems,
        (definitions.foldl (Registry.Batch.add source origin) ⟨registry, [], []⟩).problems) := by
  unfold answer Registry.addBatch
  simp only [unfrozen, Bool.false_eq_true, ↓reduceIte]
  rfl

/-- A call changes nothing in a frozen registry. -/
theorem after_frozen (frozen : registry.frozen = true) (call : RegistryCall) :
    call.after registry = registry := by
  unfold after
  cases call with
  | add origin source definitions => rw [answer_frozen frozen]
  | freeze =>
    obtain ⟨defaultPackage, entries, problems, still⟩ := registry
    obtain rfl : still = true := frozen
    rfl

/-- Calls change nothing in a frozen registry. -/
theorem afterAll_frozen (frozen : registry.frozen = true) (calls : List RegistryCall) :
    afterAll calls registry = registry := by
  induction calls with
  | nil => rfl
  | cons call calls inductionHypothesis =>
    change afterAll calls (call.after registry) = registry
    rw [after_frozen frozen]
    exact inductionHypothesis

/-- A registry is frozen from the call on that freezes it. -/
theorem afterAll_freeze {calls : List RegistryCall} (called : freeze ∈ calls) :
    (afterAll calls registry).frozen = true := by
  obtain ⟨before, behind, rfl⟩ := List.append_of_mem called
  unfold afterAll
  rw [List.foldl_append]
  have frozen : (freeze.after (afterAll before registry)).frozen = true := rfl
  have still := afterAll_frozen frozen behind
  exact (congrArg Registry.frozen still).trans frozen

/-- The problems of a registry are those that the calls returned. -/
theorem afterAll_problems (calls : List RegistryCall) (registry : Registry) :
    (afterAll calls registry).problems = registry.problems ++ returnedAll calls registry := by
  induction calls generalizing registry with
  | nil => exact (List.append_nil _).symm
  | cons call calls inductionHypothesis =>
    change (afterAll calls (call.after registry)).problems = _
    have noted : (call.after registry).problems = registry.problems ++ call.returned registry := by
      unfold after returned
      cases call with
      | freeze => exact (List.append_nil _).symm
      | add origin source definitions =>
        cases state : registry.frozen with
        | true => rw [answer_frozen state]; exact (List.append_nil _).symm
        | false => rw [answer_unfrozen state]; rfl
    rw [inductionHypothesis, noted, returnedAll, List.append_assoc]

/-- Calls keep the account of a registry that is not frozen at first. -/
theorem afterAll_account {defaultPackage : Text} (calls : List RegistryCall)
    {made : List Offer} (unfrozen : registry.frozen = false)
    (account : registry.Account defaultPackage made) :
    (afterAll calls registry).Account defaultPackage (made ++ offers calls) := by
  induction calls generalizing registry made with
  | nil =>
    rw [offers, List.append_nil]
    exact account
  | cons call calls inductionHypothesis =>
    change (afterAll calls (call.after registry)).Account _ _
    cases call with
    | freeze =>
      have frozen : (freeze.after registry).frozen = true := rfl
      rw [afterAll_frozen frozen, offers, List.append_nil]
      exact account.freeze
    | add origin source definitions =>
      have whole : (Registry.Batch.behind registry.problems ⟨registry, [], []⟩).Account
          defaultPackage made := by
        unfold Registry.Batch.behind
        rw [List.append_nil]
        exact account
      obtain ⟨next, still⟩ :=
        Registry.Batch.foldl_account source origin definitions _ _ unfrozen whole
      rw [offers, ← List.append_assoc]
      unfold after
      rw [answer_unfrozen unfrozen]
      exact inductionHypothesis still next

end RegistryCall

open RegistryCall

/-- The registry that some calls make of an empty one. -/
def Registry.ofCalls (defaultPackage : Text) (calls : List RegistryCall) : Registry :=
  afterAll calls { defaultPackage := defaultPackage }

/-- A registry made by calls accounts for all their offers. -/
theorem Registry.ofCalls_account (defaultPackage : Text) (calls : List RegistryCall) :
    (Registry.ofCalls defaultPackage calls).Account defaultPackage (offers calls) :=
  afterAll_account calls rfl (.start defaultPackage)

/-- A registry is written once and loses nothing. After any calls,

* a name belongs to the first offer of it that has an entry, for good; while a batch is being
  added, the registry is what the batch so far would have made of it;
* the offers made before the registry was frozen are its entries, its problems and the
  definitions that were passed over; its problems are those that the calls returned, and
  every second definition is reported with the place of the one that is kept;
* the two listings together hold every entry, each in strictly increasing order;
* a frozen registry refuses every batch and every entry and is never changed again. -/
theorem Registry.ofCalls_writtenOnce (defaultPackage : Text) (calls : List RegistryCall) :
    ((Registry.ofCalls defaultPackage calls).find? [] = none ∧
      (∀ name, name ≠ [] → (Registry.ofCalls defaultPackage calls).find? name =
        firstBuilt? defaultPackage (offers calls) name) ∧
      (∀ more name entry, (Registry.ofCalls defaultPackage calls).find? name = some entry →
        (Registry.ofCalls defaultPackage (calls ++ more)).find? name = some entry) ∧
      (∀ origin source definitions, (Registry.ofCalls defaultPackage calls).frozen = false →
        (definitions.foldl (Registry.Batch.add source origin)
            ⟨Registry.ofCalls defaultPackage calls, [], []⟩).registry.entries =
          (Registry.ofCalls defaultPackage
            (calls ++ [.add origin source definitions])).entries)) ∧
    ((offers calls).length =
        (Registry.ofCalls defaultPackage calls).size +
          (Registry.ofCalls defaultPackage calls).problems.length +
          (offers calls).countP (Offer.isSkipped defaultPackage) ∧
      (∀ offer ∈ offers calls, (offer.definition.DefinesType → offer.name ≠ []) →
        (offer.isSkipped defaultPackage = true ↔
          ¬ offer.definition.DefinesType ∧ ∃ entry, offer.build defaultPackage = .ok entry)) ∧
      (Registry.ofCalls defaultPackage calls).problems =
        returnedAll calls { defaultPackage := defaultPackage } ∧
      (∀ name holder other, .duplicateType name holder other ∈
          (Registry.ofCalls defaultPackage calls).problems →
        ∃ kept, (Registry.ofCalls defaultPackage calls).find? name = some kept ∧
          holder = kept.location)) ∧
    (((Registry.ofCalls defaultPackage calls).entriesOf .generation ++
        (Registry.ofCalls defaultPackage calls).entriesOf .reference).Perm
          (Registry.ofCalls defaultPackage calls).entries ∧
      ∀ origin, (((Registry.ofCalls defaultPackage calls).entriesOf origin).map
        Entry.place).Pairwise Precedes) ∧
    (.freeze ∈ calls →
      (∀ origin source definitions, (RegistryCall.add origin source definitions).answer
        (Registry.ofCalls defaultPackage calls) = .error Registry.frozenProblem) ∧
      (∀ entry, ((Registry.ofCalls defaultPackage calls).insert entry).value =
        .error Registry.frozenProblem) ∧
      ∀ more, Registry.ofCalls defaultPackage (calls ++ more) =
        Registry.ofCalls defaultPackage calls) := by
  have account := Registry.ofCalls_account defaultPackage calls
  have continued (more : List RegistryCall) : Registry.ofCalls defaultPackage (calls ++ more) =
      afterAll more (Registry.ofCalls defaultPackage calls) := List.foldl_append
  refine ⟨⟨account.nameless, account.first, ?_, ?_⟩,
    ⟨account.count, fun _ _ named => Offer.isSkipped_iff named, ?_, account.duplicates⟩,
    ⟨Registry.describe_perm _, fun _ => Registry.entriesOf_increasing _ _ account.distinct⟩, ?_⟩
  · intro more name entry found
    have spelled : name ≠ [] := by
      rintro rfl
      rw [account.nameless] at found
      cases found
    obtain ⟨further, same⟩ := offers_prefix calls more
    rw [account.first name spelled] at found
    rw [(Registry.ofCalls_account defaultPackage (calls ++ more)).first name spelled, same,
      firstBuilt?_append, found]
    rfl
  · intro origin source definitions unfrozen
    rw [continued]
    change _ = ((RegistryCall.add origin source definitions).after _).entries
    unfold after
    rw [answer_unfrozen unfrozen]
    rfl
  · exact afterAll_problems calls _
  · intro called
    have frozen : (Registry.ofCalls defaultPackage calls).frozen = true := afterAll_freeze called
    refine ⟨answer_frozen frozen, ?_, ?_⟩
    · intro entry
      unfold Registry.insert
      rw [if_pos frozen]
    · intro more
      rw [continued]
      exact afterAll_frozen frozen more

/-- Calls with a definition of every fate: a type to refer to, the same name to generate, a
package that is no string, a schema block, and a batch that comes too late. -/
def mixedCalls : List RegistryCall :=
  [.add .reference "lib.graphql" [.scalar ⟨"Date", [], none, ⟨0, 11, 1, 1⟩⟩],
    .add .generation "app.graphql"
      [.scalar ⟨"Date", [], none, ⟨0, 11, 1, 1⟩⟩,
        .scalar ⟨"Time", [⟨"java", [⟨"package", .int "1" .unknown, .unknown⟩], .unknown⟩], none,
          ⟨12, 40, 2, 1⟩⟩,
        .schema ⟨[⟨"query", ⟨"Q", .unknown⟩, .unknown⟩], [], none, ⟨41, 60, 3, 1⟩⟩],
    .freeze, .add .generation "late.graphql" []]

/-- The four offers of these calls are one entry, two problems and one definition that is
passed over. -/
theorem Registry.ofCalls_writtenOnce_mixed :
    (Registry.ofCalls "ns" mixedCalls).find? "Date" =
        firstBuilt? "ns" (offers mixedCalls) "Date" ∧
      4 = (Registry.ofCalls "ns" mixedCalls).size +
        (Registry.ofCalls "ns" mixedCalls).problems.length + 1 ∧
      (Registry.ofCalls "ns" mixedCalls).size = 1 ∧
      (RegistryCall.add .generation "late.graphql" []).answer
        (Registry.ofCalls "ns" mixedCalls) = .error Registry.frozenProblem := by
  obtain ⟨⟨-, first, -⟩, ⟨count, -⟩, -, frozen⟩ := Registry.ofCalls_writtenOnce "ns" mixedCalls
  exact ⟨first "Date" (by decide), count, by decide, (frozen (by simp [mixedCalls])).1 _ _ _⟩

end SchemaForge

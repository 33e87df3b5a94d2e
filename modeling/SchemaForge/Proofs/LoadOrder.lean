import Mathlib.Data.List.Nodup
import SchemaForge.Generation
import SchemaForge.Proofs.RegistryRuns

/-!
# The order of loading

What a generation finds in a registry are the listing of the entries to generate and the
entry of each name. Where no type is offered twice, both are decided by the offers as a
set: an entry is in the registry exactly if some offer has it, and a listing without ties
has one order. So schemas may be loaded in any order and cut into batches in any way.

Problems are not part of this. Two runs note the same problems, but each in the order of
its own calls.
-/

namespace SchemaForge

/-! ## Names that are offered once -/

/-- No two of the types that are offered have the same name. -/
def OfferedOnce (offers : List Offer) : Prop :=
  ((offers.filter (fun offer => decide offer.definition.DefinesType)).map Offer.name).Nodup

namespace OfferedOnce

variable {offers others : List Offer}

/-- The order of the offers does not matter for that. -/
theorem perm (once : OfferedOnce offers) (same : offers.Perm others) : OfferedOnce others :=
  ((same.filter _).map _).nodup_iff.mp once

/-- Offers of one type are one offer. -/
theorem eq_of_name (once : OfferedOnce offers) {offer other : Offer} (member : offer ∈ offers)
    (memberOther : other ∈ offers) (same : offer.name = other.name) (spelled : offer.name ≠ []) :
    offer = other := by
  have defines := Definition.definesType_of_typeName spelled
  have spelledOther : other.name ≠ [] := same ▸ spelled
  have definesOther := Definition.definesType_of_typeName spelledOther
  exact List.inj_on_of_nodup_map once (List.mem_filter.mpr ⟨member, decide_eq_true defines⟩)
    (List.mem_filter.mpr ⟨memberOther, decide_eq_true definesOther⟩) same

/-- The first entry of a name is the entry of any offer of the name. -/
theorem firstBuilt?_eq_some (once : OfferedOnce offers) {defaultPackage name : Text}
    (spelled : name ≠ []) {entry : Entry} :
    firstBuilt? defaultPackage offers name = some entry ↔
      ∃ offer ∈ offers, offer.name = name ∧ offer.build defaultPackage = .ok entry := by
  have found {offer : Offer} {entry : Entry} :
      (if offer.name = name then (offer.build defaultPackage).toOption else none) = some entry ↔
        offer.name = name ∧ offer.build defaultPackage = .ok entry := by
    by_cases asked : offer.name = name <;>
      cases offer.build defaultPackage <;> simp [asked, Except.toOption]
  constructor
  · intro first
    obtain ⟨offer, member, built⟩ := List.exists_of_findSome?_eq_some first
    exact ⟨offer, member, found.mp built⟩
  · rintro ⟨offer, member, named, built⟩
    cases first : firstBuilt? defaultPackage offers name with
    | none =>
      have nothing := List.findSome?_eq_none_iff.mp first offer member
      rw [found.mpr ⟨named, built⟩] at nothing
      cases nothing
    | some other =>
      obtain ⟨holder, memberHolder, held⟩ := List.exists_of_findSome?_eq_some first
      obtain ⟨namedHolder, builtHolder⟩ := found.mp held
      obtain rfl := once.eq_of_name memberHolder member (namedHolder.trans named.symm)
        (namedHolder ▸ spelled)
      exact congrArg some (Except.ok.inj (builtHolder.symm.trans built))

end OfferedOnce

/-! ## Registries with the same entries -/

namespace Registry

variable {registry other : Registry}

/-- Where no name occurs twice, an entry is in the registry if its name leads to it. -/
theorem mem_entries_iff (distinct : (registry.entries.map Entry.name).Nodup) {entry : Entry} :
    entry ∈ registry.entries ↔ registry.find? entry.name = some entry := by
  constructor
  · intro member
    unfold find?
    cases found : registry.entries.find? (fun held => decide (held.name = entry.name)) with
    | none => simpa using List.find?_eq_none.mp found entry member
    | some held =>
      have named : held.name = entry.name := by simpa using List.find?_some found
      exact congrArg some
        (List.inj_on_of_nodup_map distinct (List.mem_of_find?_eq_some found) member named)
  · exact List.mem_of_find?_eq_some

/-- Registries in which every name leads to the same entry have the same entries. -/
theorem entries_perm (distinct : (registry.entries.map Entry.name).Nodup)
    (distinctOther : (other.entries.map Entry.name).Nodup)
    (found : ∀ name, registry.find? name = other.find? name) :
    registry.entries.Perm other.entries := by
  rw [List.perm_ext_iff_of_nodup (.of_map _ distinct) (.of_map _ distinctOther)]
  intro entry
  rw [mem_entries_iff distinct, mem_entries_iff distinctOther, found]

/-- A listing without ties is decided by the entries. -/
theorem entriesOf_eq (distinct : (registry.entries.map Entry.name).Nodup)
    (same : registry.entries.Perm other.entries) (origin : Origin) :
    registry.entriesOf origin = other.entriesOf origin := by
  have distinctOther : (other.entries.map Entry.name).Nodup :=
    (same.map Entry.name).nodup_iff.mp distinct
  have listed : (registry.entriesOf origin).Perm (other.entriesOf origin) :=
    (registry.entriesOf_perm origin).trans
      ((same.filter _).trans (other.entriesOf_perm origin).symm)
  refine listed.eq_of_pairwise ?_
    (List.pairwise_map.mp (registry.entriesOf_increasing origin distinct))
    (List.pairwise_map.mp (other.entriesOf_increasing origin distinctOther))
  intro earlier later _ _ before after
  exact absurd (before.trans after) (Precedes.irrefl _)

/-! ## Generations -/

/-- A generation depends on the entry of each name, the listing of what is to be generated,
the default package and whether the registry is frozen, and on nothing else. -/
theorem generate_congr {σ : Type} (found : ∀ name, registry.find? name = other.find? name)
    (listed : registry.entriesOf .generation = other.entriesOf .generation)
    (package : registry.defaultPackage = other.defaultPackage)
    (phase : registry.frozen = other.frozen) (injectionModule : Option Text)
    (sink : Option (Sink σ)) (start : σ) :
    registry.generate injectionModule sink start = other.generate injectionModule sink start := by
  have missing (entry : Entry) :
      Generation.missingNames registry entry = Generation.missingNames other entry := by
    unfold Generation.missingNames
    simp only [found]
  have edges (entry : Entry) :
      Generation.dependencies registry entry = Generation.dependencies other entry := by
    unfold Generation.dependencies
    simp only [found]
  have entryStep : Generation.generateEntry registry sink =
      Generation.generateEntry other sink := by
    funext entry
    unfold Generation.generateEntry Generation.artifactOf
    rw [missing, edges]
  unfold generate Generation.generateAll Generation.generateBindings
  rw [entryStep, listed, package, phase]

end Registry

open RegistryCall

/-- The order of loading does not matter. Two sequences of calls that offer the same
definitions, whatever their order and however they are cut into batches, and that offer no
type twice, make registries with the same listing and the same entry for every name. Once
frozen, they generate the same modules with the same findings into any sink. -/
theorem Registry.ofCalls_orderIndependent {defaultPackage : Text} {calls others : List RegistryCall}
    (same : (offers calls).Perm (offers others)) (once : OfferedOnce (offers calls)) :
    (Registry.ofCalls defaultPackage calls).freeze.describe =
        (Registry.ofCalls defaultPackage others).freeze.describe ∧
      (∀ name, (Registry.ofCalls defaultPackage calls).freeze.find? name =
        (Registry.ofCalls defaultPackage others).freeze.find? name) ∧
      ∀ (σ : Type) (injectionModule : Option Text) (sink : Option (Sink σ)) (start : σ),
        (Registry.ofCalls defaultPackage calls).freeze.generate injectionModule sink start =
          (Registry.ofCalls defaultPackage others).freeze.generate injectionModule sink start := by
  have account := (Registry.ofCalls_account defaultPackage calls).freeze
  have accountOther := (Registry.ofCalls_account defaultPackage others).freeze
  have found (name : Text) : (Registry.ofCalls defaultPackage calls).freeze.find? name =
      (Registry.ofCalls defaultPackage others).freeze.find? name := by
    by_cases spelled : name = []
    · rw [spelled, account.nameless, accountOther.nameless]
    · rw [account.first name spelled, accountOther.first name spelled]
      refine Option.ext fun entry => ?_
      rw [once.firstBuilt?_eq_some spelled, (once.perm same).firstBuilt?_eq_some spelled]
      simp only [same.mem_iff]
  have listed := Registry.entriesOf_eq account.distinct
    (Registry.entries_perm account.distinct accountOther.distinct found)
  refine ⟨?_, found, ?_⟩
  · unfold Registry.describe
    rw [listed, listed]
  · intro σ injectionModule sink start
    exact Registry.generate_congr found (listed .generation)
      (account.package.trans accountOther.package.symm) rfl injectionModule sink start

/-- Two types that want the same module, offered in one batch. -/
def serverCalls : List RegistryCall :=
  [.add .generation "a.graphql"
    [.scalar ⟨"HTTPServer", [], none, ⟨0, 17, 1, 1⟩⟩,
      .scalar ⟨"HttpServer", [], none, ⟨18, 35, 2, 1⟩⟩]]

/-- The same types the other way round, each in a batch of its own. -/
def reversedServerCalls : List RegistryCall :=
  [.add .generation "a.graphql" [.scalar ⟨"HttpServer", [], none, ⟨18, 35, 2, 1⟩⟩],
    .add .generation "a.graphql" [.scalar ⟨"HTTPServer", [], none, ⟨0, 17, 1, 1⟩⟩]]

/-- In either order the same one of the two has the module. -/
theorem Registry.ofCalls_orderIndependent_servers :
    (offers serverCalls).Perm (offers reversedServerCalls) ∧ OfferedOnce (offers serverCalls) ∧
      (Registry.ofCalls "ns" serverCalls).entries ≠
        (Registry.ofCalls "ns" reversedServerCalls).entries ∧
      (Registry.ofCalls "ns" serverCalls).freeze.describe =
        (Registry.ofCalls "ns" reversedServerCalls).freeze.describe ∧
      (Registry.ofCalls "ns" serverCalls).freeze.generate (some "ns.bindings")
          (some memorySink) {} =
        (Registry.ofCalls "ns" reversedServerCalls).freeze.generate (some "ns.bindings")
          (some memorySink) {} := by
  have same : (offers serverCalls).Perm (offers reversedServerCalls) := .swap _ _ _
  have once : OfferedOnce (offers serverCalls) := by
    unfold OfferedOnce
    decide
  have different : (Registry.ofCalls "ns" serverCalls).entries.map Entry.name ≠
      (Registry.ofCalls "ns" reversedServerCalls).entries.map Entry.name := by decide
  obtain ⟨listed, -, generated⟩ :=
    Registry.ofCalls_orderIndependent same once
  exact ⟨same, once, fun equal => different (congrArg _ equal), listed, generated _ _ _ _⟩

end SchemaForge

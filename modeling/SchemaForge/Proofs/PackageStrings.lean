import SchemaForge.Proofs.ImportLines
import SchemaForge.Proofs.LoadOrder

/-!
# What package strings do to generated modules

Two runs whose schemas say the same but for the packages of their types write the same number of
lines for each type, if no line ends in a package. Otherwise the numbers differ by the line ends
in the packages that the type imports from, in the one run and in the other.

The packages of a schema stand in the directives of its definitions, so other packages may move
everything behind them. That is why the two runs are compared up to spans. Which types have an
artifact is not compared: two types in one package may want one module, and in two packages each
has its own.
-/

namespace SchemaForge

/-! ## Schemas that differ in packages -/

/-- A package can be resolved from some directives: they name none, or name it by a string. -/
def isPackaged (directives : List Directive) : Bool := (resolvePackage directives [] []).isOk

/-- Neither the default nor the place of the definition has a part in that. -/
theorem isOk_resolvePackage (directives : List Directive) (default location : Text) :
    (resolvePackage directives default location).isOk = isPackaged directives := by
  unfold isPackaged resolvePackage
  cases directives with
  | nil => rfl
  | cons first others =>
    dsimp only
    generalize first.packageArgument? = argument
    cases argument with
    | none => rfl
    | some argument =>
      dsimp only
      generalize argument.value = value
      cases value <;> rfl

/-- Definitions that differ in their spans and in the directives applied to them alone. Either
both have a package, or neither. -/
structure Definition.SameButPackage (definition other : Definition) : Prop where
  /-- What they say is the same. -/
  content : definition.undecorated = other.undecorated
  /-- A package can be resolved for both or for neither. -/
  packaged : isPackaged definition.directives = isPackaged other.directives

/-- Schema texts that define the same types, packages apart, or that are no schemas. -/
inductive Text.SameButPackages : Text → Text → Prop where
  /-- Both are schemas. -/
  | schemas {text other : Text} {definitions others : List Definition}
      (parsed : parseDocument text = .ok definitions)
      (parsedOther : parseDocument other = .ok others)
      (same : List.Forall₂ Definition.SameButPackage definitions others) :
      SameButPackages text other
  /-- Neither is a schema. -/
  | broken {text other : Text} {error otherError : DocumentError}
      (failed : parseDocument text = .error error)
      (failedOther : parseDocument other = .error otherError) : SameButPackages text other

/-- Named texts that are the same one by one, packages apart. -/
def SameButPackages (texts others : List (Text × Text)) : Prop :=
  List.Forall₂ (fun named other => named.1 = other.1 ∧ Text.SameButPackages named.2 other.2) texts
    others

/-- Texts are the same as themselves. -/
theorem SameButPackages.refl (texts : List (Text × Text)) : SameButPackages texts texts := by
  refine List.forall₂_same.mpr ?_
  rintro ⟨source, text⟩ -
  refine ⟨rfl, ?_⟩
  cases parsed : parseDocument text with
  | error error => exact .broken parsed parsed
  | ok definitions =>
    exact .schemas parsed parsed
      (List.forall₂_same.mpr (fun definition _ => ⟨rfl, rfl⟩))

/-! ## What texts offer -/

/-- The definitions that some texts offer to a registry. A text that is no schema offers none. -/
def textOffers (origin : Origin) (texts : List (Text × Text)) : List Offer :=
  texts.flatMap (fun named =>
    match parseDocument named.2 with
    | .error _ => []
    | .ok definitions => definitions.map (Offer.mk origin named.1))

/-- The calls on a registry that some texts come to. -/
def schemaCalls (origin : Origin) (texts : List (Text × Text)) : List RegistryCall :=
  texts.flatMap (fun named =>
    match parseDocument named.2 with
    | .error _ => []
    | .ok definitions => [.add origin named.1 definitions])

/-- They make the registry that the texts make. -/
theorem registryAfterAll_textCalls (origin : Origin) (texts : List (Text × Text))
    (registry : Registry) :
    AddCall.registryAfterAll (textCalls origin texts) registry =
      RegistryCall.afterAll (schemaCalls origin texts) registry := by
  induction texts generalizing registry with
  | nil => rfl
  | cons named texts inductionHypothesis =>
    obtain ⟨source, text⟩ := named
    have step : AddCall.registryAfter ⟨⟨[], []⟩, origin, .text source text⟩ registry =
        RegistryCall.afterAll (schemaCalls origin [(source, text)]) registry := by
      unfold AddCall.registryAfter AddCall.content schemaCalls
      rw [List.flatMap_singleton]
      dsimp only
      cases parseDocument text <;> rfl
    have split : schemaCalls origin ((source, text) :: texts) =
        schemaCalls origin [(source, text)] ++ schemaCalls origin texts := by
      simp [schemaCalls]
    change AddCall.registryAfterAll (textCalls origin texts) (AddCall.registryAfter _ registry) = _
    rw [inductionHypothesis, split, step]
    unfold RegistryCall.afterAll
    rw [List.foldl_append]

/-- What they offer is what the texts offer. -/
theorem offers_schemaCalls (origin : Origin) (texts : List (Text × Text))
    (more : List RegistryCall) :
    RegistryCall.offers (schemaCalls origin texts ++ more) =
      textOffers origin texts ++ RegistryCall.offers more := by
  induction texts with
  | nil => rfl
  | cons named texts inductionHypothesis =>
    unfold schemaCalls textOffers at inductionHypothesis ⊢
    rw [List.flatMap_cons, List.flatMap_cons, List.append_assoc, List.append_assoc,
      ← inductionHypothesis]
    cases parseDocument named.2 <;> rfl

/-- What a run offers to its registry. -/
def runOffers (references schemas : List (Text × Text)) : List Offer :=
  textOffers .reference references ++ textOffers .generation schemas

/-- The registry of a run accounts for what its texts offer. -/
theorem loadedRegistry_account (references schemas : List (Text × Text)) (defaultPackage : Text) :
    (loadedRegistry references schemas defaultPackage).Account defaultPackage
      (runOffers references schemas) := by
  have made : loadedRegistry references schemas defaultPackage =
      Registry.ofCalls defaultPackage
        (schemaCalls .reference references ++ schemaCalls .generation schemas) := by
    unfold loadedRegistry runCalls Registry.ofCalls RegistryCall.afterAll
    rw [AddCall.registryAfterAll, List.foldl_append, List.foldl_append]
    exact (registryAfterAll_textCalls .generation schemas _).trans
      (congrArg _ (registryAfterAll_textCalls .reference references _))
  have offered : RegistryCall.offers
      (schemaCalls .reference references ++ schemaCalls .generation schemas) =
        runOffers references schemas := by
    have last := offers_schemaCalls .generation schemas []
    rw [List.append_nil] at last
    rw [offers_schemaCalls, last]
    exact congrArg _ (List.append_nil _)
  rw [made, ← offered]
  exact Registry.ofCalls_account defaultPackage _

/-- Offers of the same definitions, packages apart. -/
structure Offer.SameButPackage (offer other : Offer) : Prop where
  /-- They come for the same purpose. -/
  origin : offer.origin = other.origin
  /-- They come from the same schema. -/
  source : offer.source = other.source
  /-- What is offered is the same. -/
  definition : offer.definition.SameButPackage other.definition

/-- Texts that are the same offer the same. -/
theorem SameButPackages.textOffers {texts others : List (Text × Text)}
    (same : SameButPackages texts others) (origin : Origin) :
    List.Forall₂ Offer.SameButPackage (textOffers origin texts) (textOffers origin others) := by
  unfold SameButPackages at same
  induction same with
  | nil => exact .nil
  | @cons named other texts others alike _ inductionHypothesis =>
    obtain ⟨source, text⟩ := named
    obtain ⟨otherSource, otherText⟩ := other
    obtain ⟨rfl, read⟩ := alike
    unfold SchemaForge.textOffers
    rw [List.flatMap_cons, List.flatMap_cons]
    refine List.rel_append ?_ inductionHypothesis
    dsimp only at read ⊢
    cases read with
    | broken failed failedOther =>
      rw [failed, failedOther]
      exact .nil
    | schemas parsed parsedOther definitions =>
      rw [parsed, parsedOther]
      dsimp only
      rw [List.forall₂_map_left_iff, List.forall₂_map_right_iff]
      exact definitions.imp (fun _ _ alike => ⟨rfl, rfl, alike⟩)

/-- So do the texts of two runs. -/
theorem runOffers_same {references schemas otherReferences otherSchemas : List (Text × Text)}
    (sameReferences : SameButPackages references otherReferences)
    (sameSchemas : SameButPackages schemas otherSchemas) :
    List.Forall₂ Offer.SameButPackage (runOffers references schemas)
      (runOffers otherReferences otherSchemas) :=
  List.rel_append (sameReferences.textOffers .reference) (sameSchemas.textOffers .generation)

/-! ## What registries know -/

section Registries

variable {offers others : List Offer} {defaultPackage otherPackage : Text}

/-- Offers of the same have the same entry, packages apart. -/
theorem Offer.SameButPackage.build {offer other : Offer} (same : offer.SameButPackage other)
    (defaultPackage otherPackage : Text) :
    (offer.build defaultPackage).toOption.map Entry.unpackaged =
      (other.build otherPackage).toOption.map Entry.unpackaged := by
  obtain ⟨origin, source, content, packaged⟩ := same
  unfold Offer.build Entry.build
  dsimp only
  rw [← isOk_resolvePackage _ defaultPackage (renderLocation (some offer.source)
      offer.definition.span.line offer.definition.span.column),
    ← isOk_resolvePackage _ otherPackage (renderLocation (some other.source)
      other.definition.span.line other.definition.span.column)] at packaged
  generalize resolvePackage offer.definition.directives defaultPackage _ = resolved at packaged ⊢
  generalize resolvePackage other.definition.directives otherPackage _ = resolvedOther
    at packaged ⊢
  cases resolved <;> cases resolvedOther
  · rfl
  · cases packaged
  · cases packaged
  · simp [Except.toOption, Entry.unpackaged, content, source, origin]

/-- So the first entry of a name is the same, packages apart. -/
theorem firstBuilt?_same (same : List.Forall₂ Offer.SameButPackage offers others)
    (defaultPackage otherPackage name : Text) :
    (firstBuilt? defaultPackage offers name).map Entry.unpackaged =
      (firstBuilt? otherPackage others name).map Entry.unpackaged := by
  induction same with
  | nil => rfl
  | @cons offer other offers others alike _ inductionHypothesis =>
    have names : offer.name = other.name := by
      unfold Offer.name
      rw [← offer.definition.typeName_undecorated, alike.definition.content,
        other.definition.typeName_undecorated]
    have built := alike.build defaultPackage otherPackage
    unfold firstBuilt? at inductionHypothesis ⊢
    rw [List.findSome?_cons, List.findSome?_cons, names]
    by_cases asked : other.name = name
    · simp only [asked, ↓reduceIte]
      cases found : (offer.build defaultPackage).toOption <;>
        cases foundOther : (other.build otherPackage).toOption <;>
        simp_all
    · simpa only [asked, ↓reduceIte] using inductionHypothesis

namespace Registry

variable {registry other : Registry}

/-- Registries that account for the same offers, packages apart, know the same. -/
theorem Account.find?_same (account : registry.Account defaultPackage offers)
    (accountOther : other.Account otherPackage others)
    (same : List.Forall₂ Offer.SameButPackage offers others) (name : Text) :
    (registry.find? name).map Entry.unpackaged = (other.find? name).map Entry.unpackaged := by
  by_cases spelled : name = []
  · rw [spelled, account.nameless, accountOther.nameless]
  · rw [account.first name spelled, accountOther.first name spelled]
    exact firstBuilt?_same same defaultPackage otherPackage name

/-- Entries of one name are the same, packages apart. -/
theorem Account.entry_same (account : registry.Account defaultPackage offers)
    (accountOther : other.Account otherPackage others)
    (same : List.Forall₂ Offer.SameButPackage offers others) {entry twin : Entry}
    (member : entry ∈ registry.entries) (memberOther : twin ∈ other.entries)
    (name : entry.name = twin.name) : entry.unpackaged = twin.unpackaged := by
  have found := account.find?_same accountOther same entry.name
  rw [(mem_entries_iff account.distinct).mp member, name,
    (mem_entries_iff accountOther.distinct).mp memberOther] at found
  exact Option.some.inj found

end Registry

/-- Entries that are the same, packages apart, import the same types from registries that know
the same. -/
theorem Generation.dependencies_same {registry other : Registry}
    (found : ∀ name, (registry.find? name).map Entry.unpackaged =
      (other.find? name).map Entry.unpackaged) {entry twin : Entry}
    (same : entry.unpackaged = twin.unpackaged) :
    (dependencies registry entry).map Dependency.typeName =
      (dependencies other twin).map Dependency.typeName := by
  have needed : neededNames entry = neededNames twin := by
    rw [← entry.neededNames_unpackaged, same, twin.neededNames_unpackaged]
  rw [dependencies_names, dependencies_names, needed]
  refine List.filter_congr ?_
  intro name _
  have known := congrArg Option.isSome (found name)
  simpa only [Option.isSome_map] using known

end Registries

/-! ## Runs -/

open Generation

/-- What a run registers is defined in one of its texts, as a type. -/
theorem loadedRegistry_parsed {references schemas : List (Text × Text)} {defaultPackage : Text} :
    ∀ entry ∈ (loadedRegistry references schemas defaultPackage).entries,
      entry.definition.DefinesType ∧ ∃ text definitions,
        parseDocument text = .ok definitions ∧ entry.definition ∈ definitions := by
  have account := loadedRegistry_account references schemas defaultPackage
  intro entry member
  have held := (Registry.mem_entries_iff account.distinct).mp member
  have spelled : entry.name ≠ [] := by
    intro empty
    rw [empty, account.nameless] at held
    cases held
  rw [account.first entry.name spelled] at held
  obtain ⟨offer, offered, built⟩ := List.exists_of_findSome?_eq_some held
  have same : offer.definition = entry.definition := by
    split at built
    · cases made : offer.build defaultPackage with
      | error problem =>
        rw [made] at built
        cases built
      | ok found =>
        rw [made] at built
        cases built
        exact (Entry.build_eq_ok.mp made).2.1.symm
    · cases built
  have parsed : ∀ (origin : Origin) (texts : List (Text × Text)), offer ∈ textOffers origin texts →
      ∃ text definitions, parseDocument text = .ok definitions ∧
        offer.definition ∈ definitions := by
    intro origin texts inside
    obtain ⟨⟨source, text⟩, -, found⟩ := List.mem_flatMap.mp inside
    dsimp only at found
    cases read : parseDocument text with
    | error error =>
      rw [read] at found
      cases found
    | ok definitions =>
      rw [read] at found
      obtain ⟨definition, defined, rfl⟩ := List.mem_map.mp found
      exact ⟨text, definitions, read, defined⟩
  refine ⟨Definition.definesType_of_typeName spelled, ?_⟩
  rw [← same]
  obtain reference | generation := List.mem_append.mp offered
  · exact parsed _ _ reference
  · exact parsed _ _ generation

/-- The types that a run registers have names of the schema language. -/
theorem loadedRegistry_isName {references schemas : List (Text × Text)} {defaultPackage : Text} :
    ∀ entry ∈ (loadedRegistry references schemas defaultPackage).entries,
      entry.name.isName = true := by
  intro entry member
  obtain ⟨defines, text, definitions, parsed, defined⟩ := loadedRegistry_parsed entry member
  exact parseDocument_isName parsed defined defines

/-- So have the types that are imported. -/
theorem loadedRegistry_dependencies {references schemas : List (Text × Text)}
    {defaultPackage : Text} {entry : Entry} :
    ∀ dependency ∈ dependencies (loadedRegistry references schemas defaultPackage).freeze entry,
      dependency.typeName.isName = true := by
  intro dependency member
  obtain ⟨name, -, target, found, rfl⟩ := mem_dependencies.mp member
  exact loadedRegistry_isName target (name_of_find? found).1

/-- What comes of the bindings module is at most one artifact. It imports no type, and it has a
line for each class that it lists, besides those that it always has and those of its docstring. -/
theorem Generation.BindingsOutcome.lines {σ : Type} {registry : Registry}
    {injectionModule : Option Text} {sink : Option (Sink σ)} {entries : List Entry}
    {artifacts : List Artifact} {before after : σ} {outcome : GenerationResult}
    (settled : BindingsOutcome registry injectionModule sink entries artifacts before outcome
      after) :
    outcome.artifacts.length ≤ 1 ∧ ∀ artifact ∈ outcome.artifacts,
      artifact.dependencies = [] ∧ ∃ module, injectionModule = some module ∧
        artifact.text.physicalLines.length =
          (bindingsDoc module).lineEnds + 12 + (artifacts.map Artifact.listedCount).sum := by
  constructor
  · cases settled with
    | unwanted absent => exact Nat.zero_le 1
    | emission wanted emitted =>
      cases emitted with
      | clash | refused => exact Nat.zero_le 1
      | stored | listed => exact Nat.le_refl 1
  · intro artifact member
    refine ⟨(settled.of_mem member).1, ?_⟩
    have spec := bindingsArtifact?_spec registry.defaultPackage injectionModule artifacts
    cases settled with
    | unwanted absent => cases member
    | emission wanted emitted =>
      rw [wanted] at spec
      obtain ⟨-, module, given, text⟩ := spec
      refine ⟨module, given, ?_⟩
      rw [(emitted.free_of_mem member).1, text, Bindings.moduleText_eq,
        Text.length_physicalLines, lineEnds_listingText, sum_listedCount (Bindings.ordered_perm _)]
      omega

/-- An artifact that imports nothing has no lines of imports. -/
theorem Artifact.importsByLine_of_leaf {artifact : Artifact} (leaf : artifact.dependencies = []) :
    artifact.ImportsByLine := by
  constructor
  · exact fun given => absurd leaf given
  · simp [leaf]
  · simp [Artifact.importLines, leaf, packageLineEnds]
  · simp [Artifact.importLines, leaf]

/-- In every run the imports of an artifact are the lines of their packages. -/
theorem generateTexts_importsByLine {σ : Type} {references schemas : List (Text × Text)}
    {defaultPackage : Text} {injectionModule : Option Text} {sink : Option (Sink σ)} {start : σ}
    {result : GenerationResult}
    (outcome : (generateTexts references schemas defaultPackage injectionModule sink
      start).outcome = .ok result) : ∀ artifact ∈ result.artifacts, artifact.ImportsByLine := by
  obtain ⟨outcomes, middle, extra, after, run, settled, -, artifacts⟩ := generateTexts_runs outcome
  rw [artifacts, List.forall_mem_append]
  constructor
  · intro artifact member
    obtain ⟨entry, -, text, rendered, rfl⟩ := run.rendered artifact member
    exact importsByLine_of_text rendered loadedRegistry_dependencies
  · intro artifact member
    exact Artifact.importsByLine_of_leaf (settled.lines.2 artifact member).1

/-- What package strings do to the lines of generated modules. In every run the imports of an
artifact are the lines of their packages, one behind the other, with the text of an import around
the lines of each: one line for each import exactly if no line ends in a package that is imported
from. The bindings module has one line for each class that it lists, whatever the packages.

In a run of the same schemas with other packages, the modules of a type have as many lines in the
one run as in the other, once the line ends in the packages that each of them imports from are
made up for. -/
theorem generateTexts_importLines {σ : Type} {references schemas : List (Text × Text)}
    {defaultPackage : Text} {injectionModule : Option Text} {sink : Option (Sink σ)} {start : σ}
    {result : GenerationResult}
    (outcome : (generateTexts references schemas defaultPackage injectionModule sink
      start).outcome = .ok result) :
    ∃ types bindings, result.artifacts = types ++ bindings ∧ bindings.length ≤ 1 ∧
      (∀ artifact ∈ result.artifacts, artifact.ImportsByLine) ∧
      (∀ artifact ∈ bindings, artifact.dependencies = [] ∧
        ∃ module, injectionModule = some module ∧ artifact.text.physicalLines.length =
          (bindingsDoc module).lineEnds + 12 + (types.map Artifact.listedCount).sum) ∧
      ∀ {τ : Type} {otherReferences otherSchemas : List (Text × Text)} {otherPackage : Text}
        {otherModule : Option Text} {otherSink : Option (Sink τ)} {otherStart : τ}
        {other : GenerationResult},
        (generateTexts otherReferences otherSchemas otherPackage otherModule otherSink
          otherStart).outcome = .ok other →
        SameButPackages references otherReferences → SameButPackages schemas otherSchemas →
        ∃ otherTypes otherBindings, other.artifacts = otherTypes ++ otherBindings ∧
          otherBindings.length ≤ 1 ∧ (∀ artifact ∈ otherBindings, artifact.dependencies = []) ∧
          ∀ artifact ∈ types, ∀ twin ∈ otherTypes, artifact.typeName = twin.typeName →
            artifact.text.physicalLines.length + packageLineEnds twin.dependencies =
              twin.text.physicalLines.length + packageLineEnds artifact.dependencies := by
  obtain ⟨outcomes, middle, extra, after, run, settled, -, artifacts⟩ := generateTexts_runs outcome
  obtain ⟨single, lines⟩ := settled.lines
  refine ⟨(resultOf outcomes).artifacts, extra.artifacts, artifacts, single,
    generateTexts_importsByLine outcome, lines, ?_⟩
  · intro τ otherReferences otherSchemas otherPackage otherModule otherSink otherStart other
      otherOutcome sameReferences sameSchemas
    obtain ⟨otherOutcomes, _, otherExtra, _, otherRun, otherSettled, -, otherArtifacts⟩ :=
      generateTexts_runs otherOutcome
    obtain ⟨otherSingle, otherLines⟩ := otherSettled.lines
    refine ⟨(resultOf otherOutcomes).artifacts, otherExtra.artifacts, otherArtifacts, otherSingle,
      fun artifact member => (otherLines artifact member).1, ?_⟩
    intro artifact member twin twinMember names
    obtain ⟨entry, listed, text, rendered, rfl⟩ := run.rendered artifact member
    obtain ⟨twinEntry, twinListed, twinText, twinRendered, rfl⟩ :=
      otherRun.rendered twin twinMember
    have account := (loadedRegistry_account references schemas defaultPackage).freeze
    have otherAccount :=
      (loadedRegistry_account otherReferences otherSchemas otherPackage).freeze
    have offered := runOffers_same sameReferences sameSchemas
    have entries := ((Registry.entriesOf_perm _ _).mem_iff.mp listed)
    have twinEntries := ((Registry.entriesOf_perm _ _).mem_iff.mp twinListed)
    have same := account.entry_same otherAccount offered (List.mem_filter.mp entries).1
      (List.mem_filter.mp twinEntries).1 names
    have contracts : Contracts.ofEntry entry = Contracts.ofEntry twinEntry := by
      rw [← entry.ofEntry_unpackaged, same, twinEntry.ofEntry_unpackaged]
    have imported := dependencies_same (account.find?_same otherAccount offered) same
    unfold textOf at rendered twinRendered
    rw [contracts] at rendered
    have counted := Render.moduleText_lineEnds same imported loadedRegistry_dependencies rendered
      twinRendered
    rw [Text.length_physicalLines, Text.length_physicalLines]
    change text.lineEnds + 1 + packageLineEnds (dependencies _ twinEntry) =
      twinText.lineEnds + 1 + packageLineEnds (dependencies _ entry)
    omega

/-- A type to refer to, with a line end in its package and a statement behind it. -/
def injectingReferences : List (Text × Text) :=
  [("r.graphql", "scalar R@java(package:\"p import q\\nimport os #\")")]

/-- The same type with a package on one line. -/
def plainReferences : List (Text × Text) :=
  [("r.graphql", "scalar R@java(package:\"p\")")]

/-- A type that mentions it. -/
def importingSchemas : List (Text × Text) := [("s.graphql", "type S \x7b r: R \x7d")]

/-- The import of that type, from a package. -/
def importOf (package : Text) : Dependency := ⟨"R", package, .reference⟩

/-- The package with a line end. -/
def injectingPackage : Text := "p import q\nimport os #"

/-- The type that is mentioned, with the spans that it has where its package is a string of the
given length. -/
def packagedScalar (package : Text) (length : Nat) : Definition :=
  .scalar ⟨"R", [⟨"java", [⟨"package", .string package ⟨22, 22 + length, 1, 23⟩ false,
    ⟨14, 22 + length, 1, 15⟩⟩], ⟨8, 23 + length, 1, 9⟩⟩], none, ⟨0, 23 + length, 1, 1⟩⟩

/-- The two schemas say the same, packages apart. -/
theorem injectingReferences_same : SameButPackages injectingReferences plainReferences := by
  have scanned : tokenize "scalar R@java(package:\"p import q\\nimport os #\")" = .ok
      [⟨.name, "scalar", 1, 1, 0, 6⟩, ⟨.name, "R", 1, 8, 7, 8⟩, ⟨.at, "@", 1, 9, 8, 9⟩,
        ⟨.name, "java", 1, 10, 9, 13⟩, ⟨.leftParen, "(", 1, 14, 13, 14⟩,
        ⟨.name, "package", 1, 15, 14, 21⟩, ⟨.colon, ":", 1, 22, 21, 22⟩,
        ⟨.string, injectingPackage, 1, 23, 22, 47⟩, ⟨.rightParen, ")", 1, 48, 47, 48⟩,
        ⟨.endOfInput, "", 1, 49, 48, 48⟩] := by cbv
  have scannedPlain : tokenize "scalar R@java(package:\"p\")" = .ok
      [⟨.name, "scalar", 1, 1, 0, 6⟩, ⟨.name, "R", 1, 8, 7, 8⟩, ⟨.at, "@", 1, 9, 8, 9⟩,
        ⟨.name, "java", 1, 10, 9, 13⟩, ⟨.leftParen, "(", 1, 14, 13, 14⟩,
        ⟨.name, "package", 1, 15, 14, 21⟩, ⟨.colon, ":", 1, 22, 21, 22⟩,
        ⟨.string, "p", 1, 23, 22, 25⟩, ⟨.rightParen, ")", 1, 26, 25, 26⟩,
        ⟨.endOfInput, "", 1, 27, 26, 26⟩] := by cbv
  have parsed : parseDocument "scalar R@java(package:\"p import q\\nimport os #\")" =
      .ok [packagedScalar injectingPackage 25] := by
    rw [parseDocument, scanned]
    with_unfolding_all rfl
  have parsedPlain : parseDocument "scalar R@java(package:\"p\")" =
      .ok [packagedScalar "p" 3] := by
    rw [parseDocument, scannedPlain]
    with_unfolding_all rfl
  exact .cons ⟨rfl, .schemas parsed parsedPlain (.cons ⟨rfl, rfl⟩ .nil)⟩ .nil

/-- The two runs, each with the package of the type. -/
def importingRuns : List (List (Text × Text) × Text) :=
  [(injectingReferences, injectingPackage), (plainReferences, "p")]

/-- Each of them has one module, which imports the type from its package. -/
theorem importingRuns_artifacts :
    ∀ run ∈ importingRuns, ∃ result,
      (generateTexts run.1 importingSchemas "ns" none (none : Option (Sink Unit)) ()).outcome =
        .ok result ∧
      result.artifacts.map (fun artifact => (artifact.typeName, artifact.dependencies)) =
        [(Text.ofString "S", [importOf run.2])] := by
  have sorted : ∀ run ∈ importingRuns,
      ((loadedRegistry run.1 importingSchemas "ns").freeze.entries.filter
        (fun entry => decide (entry.origin = .generation))).Pairwise
          (fun earlier later => Entry.le earlier later = true) := by decide +kernel
  intro run member
  have facts : (generateTexts run.1 importingSchemas "ns" none (none : Option (Sink Unit))
      ()).outcome.toOption.map (fun result =>
        result.artifacts.map (fun artifact => (artifact.typeName, artifact.dependencies))) =
        some [(Text.ofString "S", [importOf run.2])] := by
    rw [generateTexts_outcome]
    unfold Registry.generate generateAll Registry.entriesOf
    rw [List.mergeSort_of_pairwise (sorted run member)]
    revert run
    decide +kernel
  cases outcome : (generateTexts run.1 importingSchemas "ns" none (none : Option (Sink Unit))
      ()).outcome with
  | error failure =>
    rw [outcome] at facts
    cases facts
  | ok result =>
    rw [outcome] at facts
    exact ⟨result, rfl, Option.some.inj facts⟩

/-- One import, and two lines: the second is a statement that stands at the margin, outside the
condition. -/
theorem generateTexts_importLines_injected :
    ∃ result artifact, (generateTexts injectingReferences importingSchemas "ns" none
        (none : Option (Sink Unit)) ()).outcome = .ok result ∧ artifact ∈ result.artifacts ∧
      artifact.dependencies.length = 1 ∧ ∃ before after, artifact.text.physicalLines =
        before ++ Layout.importCondition :: ["    from p import q", "import os #.r import R"] ++
          [] :: after := by
  obtain ⟨result, outcome, edges⟩ := importingRuns_artifacts (injectingReferences, injectingPackage)
    List.mem_cons_self
  obtain ⟨artifact, artifacts, given⟩ := List.map_eq_singleton_iff.mp edges
  have edge : artifact.dependencies = [importOf injectingPackage] := (Prod.mk.inj given).2
  have member : artifact ∈ result.artifacts := artifacts ▸ List.mem_singleton_self artifact
  have lines : artifact.importLines = ["    from p import q", "import os #.r import R"] := by
    rw [Artifact.importLines, edge]
    decide +kernel
  have block := (generateTexts_importsByLine outcome artifact member).block
  rw [edge, lines] at block
  exact ⟨result, artifact, outcome, member, by rw [edge]; rfl, block (List.cons_ne_nil _ _)⟩

/-- In the run with a line end in the package, the module has one line more. -/
theorem generateTexts_importLines_plain :
    ∃ result other artifact twin,
      (generateTexts injectingReferences importingSchemas "ns" none
        (none : Option (Sink Unit)) ()).outcome = .ok result ∧ result.artifacts = [artifact] ∧
      (generateTexts plainReferences importingSchemas "ns" none
        (none : Option (Sink Unit)) ()).outcome = .ok other ∧ other.artifacts = [twin] ∧
      artifact.text.physicalLines.length = twin.text.physicalLines.length + 1 := by
  obtain ⟨result, outcome, edges⟩ := importingRuns_artifacts (injectingReferences, injectingPackage)
    List.mem_cons_self
  obtain ⟨other, otherOutcome, otherEdges⟩ := importingRuns_artifacts (plainReferences, "p")
    (List.mem_cons_of_mem _ List.mem_cons_self)
  obtain ⟨artifact, artifacts, given⟩ := List.map_eq_singleton_iff.mp edges
  obtain ⟨twin, twins, otherGiven⟩ := List.map_eq_singleton_iff.mp otherEdges
  obtain ⟨name, edge⟩ := Prod.mk.inj given
  obtain ⟨otherName, otherEdge⟩ := Prod.mk.inj otherGiven
  refine ⟨result, other, artifact, twin, outcome, artifacts, otherOutcome, twins, ?_⟩
  obtain ⟨types, bindings, split, -, -, leaf, compared⟩ := generateTexts_importLines outcome
  obtain ⟨otherTypes, otherBindings, otherSplit, -, otherLeaf, lines⟩ :=
    compared otherOutcome injectingReferences_same (.refl _)
  have member : artifact ∈ types := by
    have listed : artifact ∈ types ++ bindings :=
      split ▸ artifacts ▸ List.mem_singleton_self artifact
    refine (List.mem_append.mp listed).resolve_right ?_
    intro last
    exact absurd (edge.symm.trans (leaf artifact last).1) (List.cons_ne_nil _ _)
  have otherMember : twin ∈ otherTypes := by
    have listed : twin ∈ otherTypes ++ otherBindings :=
      otherSplit ▸ twins ▸ List.mem_singleton_self twin
    refine (List.mem_append.mp listed).resolve_right ?_
    intro last
    exact absurd (otherEdge.symm.trans (otherLeaf twin last)) (List.cons_ne_nil _ _)
  have ends : packageLineEnds [importOf injectingPackage] = 1 := by decide +kernel
  have noEnds : packageLineEnds [importOf "p"] = 0 := by decide +kernel
  have counted := lines artifact member twin otherMember (name.trans otherName.symm)
  rw [edge, otherEdge, ends, noEnds] at counted
  exact counted

end SchemaForge

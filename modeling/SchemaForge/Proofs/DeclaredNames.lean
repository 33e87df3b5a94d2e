import Mathlib.Data.List.Nodup
import SchemaForge.Proofs.ModuleOutline

/-!
# The names that a module declares

The names in a module are made from names of the schema in three ways: a reserved word gets an
underscore behind it, a class for batch lookup gets an ending behind the type, and a class for
a computed field gets the field in between, with a capital. Nothing compares what comes out, so
names that differ in the schema may meet in the module.

They meet in three ways and no other. A reserved word meets the name that it is changed to, be
it among the members of a class or among the types that a module binds. Two computed fields
meet if they differ in the case of the first letter alone. And a class for a contract meets an
imported type that is called like it.
-/

namespace SchemaForge

/-! ## Identifiers -/

/-- A reserved word stands beside the name that it is changed to. -/
def KeywordTwins (names : List Text) : Prop :=
  ∃ word ∈ ModuleName.keywords, word ∈ names ∧ word ++ "_" ∈ names

instance (names : List Text) : Decidable (KeywordTwins names) :=
  decidable_of_iff (ModuleName.keywords.any (fun word =>
    names.contains word && names.contains (word ++ "_")) = true) (by simp [KeywordTwins])

namespace ModuleName

/-- A reserved word gets an underscore behind it. -/
theorem identifier_of_mem {name : Text} (reserved : name ∈ keywords) :
    identifier name = name ++ "_" := by
  rw [identifier, if_pos (List.contains_iff_mem.mpr reserved)]

/-- Every other name stays as it is. -/
theorem identifier_of_not_mem {name : Text} (free : name ∉ keywords) : identifier name = name := by
  rw [identifier, if_neg (by rwa [List.contains_iff_mem])]

/-- What a reserved word is changed to is not reserved. -/
theorem not_mem_keywords : ∀ word ∈ keywords, word ++ "_" ∉ keywords := by decide +kernel

/-- Two names meet only if one of them is what the other is changed to. -/
theorem identifier_eq_cases {name other : Text} (same : identifier name = identifier other) :
    name = other ∨ (name ∈ keywords ∧ other = name ++ "_") ∨
      (other ∈ keywords ∧ name = other ++ "_") := by
  by_cases reserved : name ∈ keywords
  · rw [identifier_of_mem reserved] at same
    by_cases otherReserved : other ∈ keywords
    · rw [identifier_of_mem otherReserved] at same
      exact .inl (List.append_cancel_right same)
    · rw [identifier_of_not_mem otherReserved] at same
      exact .inr (.inl ⟨reserved, same.symm⟩)
  · rw [identifier_of_not_mem reserved] at same
    by_cases otherReserved : other ∈ keywords
    · rw [identifier_of_mem otherReserved] at same
      exact .inr (.inr ⟨otherReserved, same⟩)
    · rw [identifier_of_not_mem otherReserved] at same
      exact .inl same

/-- A reserved word meets what it is changed to. -/
theorem identifier_twin {word : Text} (reserved : word ∈ keywords) :
    identifier word = identifier (word ++ "_") := by
  rw [identifier_of_mem reserved, identifier_of_not_mem (not_mem_keywords word reserved)]

/-- Different names have different identifiers exactly if no reserved word is among them
together with what it is changed to. -/
theorem identifiers_nodup {names : List Text} (distinct : names.Nodup) :
    (names.map identifier).Nodup ↔ ¬ KeywordTwins names := by
  rw [List.nodup_map_iff_inj_on distinct]
  constructor
  · rintro apart ⟨word, reserved, held, changed⟩
    have same := apart word held (word ++ "_") changed (identifier_twin reserved)
    simp [Text.ofString] at same
  · intro apart name held other otherHeld same
    obtain equal | ⟨reserved, rfl⟩ | ⟨reserved, rfl⟩ := identifier_eq_cases same
    · exact equal
    · exact absurd ⟨name, reserved, held, otherHeld⟩ apart
    · exact absurd ⟨other, reserved, otherHeld, held⟩ apart

/-- The name of a class for a contract, by what stands between the type and the ending. -/
def contractClass (typeName stem : Text) : Text := Text.concat [typeName, stem, "Resolver"]

/-- The name of a field with its first letter as a capital. -/
def capitalized (fieldName : Text) : Text := Text.upper (fieldName.take 1) ++ fieldName.drop 1

/-- A class for batch lookup has nothing between the type and the ending. -/
theorem batchResolver_eq_contractClass (typeName : Text) :
    batchResolver typeName = contractClass typeName [] := by
  simp [batchResolver, contractClass, Text.concat]

/-- A class for a computed field has the field between the type and the ending. -/
theorem fieldResolver_eq_contractClass (typeName fieldName : Text) :
    fieldResolver typeName fieldName = contractClass typeName (capitalized fieldName) := by
  simp [fieldResolver, contractClass, capitalized, Text.concat]

/-- Classes for contracts of one type differ in what stands between. -/
theorem contractClass_injective (typeName : Text) :
    Function.Injective (contractClass typeName) := by
  intro stem other same
  simpa [contractClass, Text.concat] using same

/-- A class for a contract is longer than what the name of its type can be changed to. -/
theorem contractClass_ne_identifier (typeName stem : Text) :
    contractClass typeName stem ≠ identifier typeName := by
  intro same
  have lengths := congrArg List.length same
  have ending : ("Resolver" : Text).length = 8 := by decide
  have mark : ("_" : Text).length = 1 := by decide
  by_cases reserved : typeName ∈ keywords
  · rw [identifier_of_mem reserved] at lengths
    simp only [contractClass, Text.concat, List.flatten_cons, List.flatten_nil,
      List.length_append, List.length_nil, ending, mark] at lengths
    omega
  · rw [identifier_of_not_mem reserved] at lengths
    simp only [contractClass, Text.concat, List.flatten_cons, List.flatten_nil,
      List.length_append, List.length_nil, ending] at lengths
    omega

/-- A class for a contract is called like an identifier only if it is called like the name
itself: no reserved word has the ending, with or without the underscore. -/
theorem identifier_eq_contractClass {name typeName stem : Text} :
    identifier name = contractClass typeName stem ↔ name = contractClass typeName stem := by
  have free : ∀ word ∈ keywords, ¬ ("Resolver" : Text) <:+ word := by decide +kernel
  have changedFree : ∀ word ∈ keywords, ¬ ("Resolver" : Text) <:+ word ++ "_" := by decide +kernel
  have ending : ("Resolver" : Text) <:+ contractClass typeName stem :=
    ⟨typeName ++ stem, by simp [contractClass, Text.concat]⟩
  by_cases reserved : name ∈ keywords
  · rw [identifier_of_mem reserved]
    constructor
    · intro same
      exact absurd (same ▸ ending) (changedFree name reserved)
    · intro same
      exact absurd (same ▸ ending) (free name reserved)
  · rw [identifier_of_not_mem reserved]

end ModuleName

/-! ## Definitions -/

namespace Definition

/-- The names of the fields or the values of a definition. -/
def memberNames : Definition → List Text
  | .object type | .interface type => type.fields.map Field.name
  | .inputObject type => type.fields.map InputValue.name
  | .enum type => type.values.map EnumMember.name
  | .union _ | .scalar _ | .directive _ | .schema _ => []

/-- The names of the fields or the values for which the class of a definition has a member. -/
def storedNames : Definition → List Text
  | .object type | .interface type => type.stored.map Field.name
  | .inputObject type => type.fields.map InputValue.name
  | .enum type => type.values.map EnumMember.name
  | .union _ | .scalar _ | .directive _ | .schema _ => []

/-- What stands between the type and the ending in the names of its classes for contracts. -/
def contractStems : Definition → List Text
  | .object type =>
    (if (Definition.object type).hasIdentityField then [[]] else []) ++
      type.computed.map (fun field => ModuleName.capitalized field.name)
  | _ => []

/-- The names of the classes for contracts. -/
def contractClasses (definition : Definition) : List Text :=
  definition.contractStems.map (ModuleName.contractClass definition.typeName)

/-- Members are for some of the fields or values. -/
theorem storedNames_sublist (definition : Definition) :
    definition.storedNames.Sublist definition.memberNames := by
  cases definition with
  | object type => exact List.filter_sublist.map Field.name
  | interface type => exact List.filter_sublist.map Field.name
  | inputObject | enum | union | scalar | directive | schema => exact List.Sublist.refl _

/-- The statements of a definition of a type bind the type and the classes for contracts. -/
theorem statements_boundNames {definition : Definition} (defines : definition.DefinesType) :
    definition.statements.map Statement.boundName =
      ModuleName.identifier definition.typeName :: definition.contractClasses := by
  cases definition with
  | object type =>
    have lookup (identity : Bool) :
        (if identity = true then [type.lookupClass] else []).map Statement.boundName =
          (if identity = true then [[]] else []).map (ModuleName.contractClass type.name) := by
      cases identity
      · rfl
      · exact congrArg (fun name => [name]) (ModuleName.batchResolver_eq_contractClass type.name)
    have computed : (type.computed.map type.computationClass).map Statement.boundName =
        (type.computed.map (fun field => ModuleName.capitalized field.name)).map
          (ModuleName.contractClass type.name) := by
      rw [List.map_map, List.map_map]
      refine List.map_congr_left ?_
      intro field _
      exact ModuleName.fieldResolver_eq_contractClass type.name field.name
    rw [contractClasses, contractStems, List.map_append]
    unfold statements
    rw [List.map_cons, List.map_append, lookup, computed]
    rfl
  | inputObject | interface | enum | union | scalar => rfl
  | directive | schema => exact absurd defines (by simp [DefinesType, kind])

/-- The members in the bodies of the classes of a definition are different exactly if the
identifiers of what is stored are. -/
theorem statements_members_nodup (definition : Definition) :
    (∀ statement ∈ definition.statements,
        (statement.members.map ClassMember.boundName).Nodup) ↔
      (definition.storedNames.map ModuleName.identifier).Nodup := by
  cases definition with
  | object type =>
    have record : type.recordClass.members.map ClassMember.boundName =
        (Definition.object type).storedNames.map ModuleName.identifier := by
      simp [FieldedType.recordClass, Statement.members, storedNames, Function.comp_def,
        ClassMember.boundName]
    unfold statements
    rw [List.forall_mem_cons, record]
    refine and_iff_left ?_
    intro statement member
    obtain member | member := List.mem_append.mp member
    · obtain ⟨-, rfl⟩ : _ ∧ statement = type.lookupClass := by simpa using member
      exact .nil
    · obtain ⟨field, -, rfl⟩ := List.mem_map.mp member
      exact List.nodup_singleton _
  | inputObject type =>
    simp [statements, InputType.recordClass, Statement.members, storedNames, Function.comp_def,
      ClassMember.boundName]
  | interface type =>
    simp [statements, FieldedType.protocolClass, Statement.members, storedNames,
      Function.comp_def, ClassMember.boundName]
  | enum type =>
    simp [statements, EnumType.enumClass, Statement.members, storedNames, Function.comp_def,
      ClassMember.boundName]
  | union | scalar | directive | schema => simp [statements, Statement.members, storedNames]

end Definition

/-! ## Modules -/

/-- The names that a module binds: those of its statements and those of its imports. -/
def moduleNames (definition : Definition) (dependencies : List Dependency) : List Text :=
  definition.statements.map Statement.boundName ++
    dependencies.map (fun dependency => ModuleName.identifier dependency.typeName)

/-- The names that a module binds are different exactly if no reserved word is among its types
together with what it is changed to, its classes for contracts differ, and none of them is
called like an imported type. -/
theorem moduleNames_nodup {definition : Definition} {dependencies : List Dependency}
    (defines : definition.DefinesType)
    (distinct : (definition.typeName :: dependencies.map Dependency.typeName).Nodup) :
    (moduleNames definition dependencies).Nodup ↔
      ¬ KeywordTwins (definition.typeName :: dependencies.map Dependency.typeName) ∧
        definition.contractStems.Nodup ∧
        ∀ name ∈ definition.contractClasses, name ∉ dependencies.map Dependency.typeName := by
  have types : (moduleNames definition dependencies).Perm
      ((definition.typeName :: dependencies.map Dependency.typeName).map ModuleName.identifier ++
        definition.contractClasses) := by
    rw [moduleNames, Definition.statements_boundNames defines, List.map_cons, List.map_map,
      List.cons_append, List.cons_append]
    exact List.perm_append_comm.cons _
  have classes : definition.contractClasses.Nodup ↔ definition.contractStems.Nodup :=
    List.nodup_map_iff (ModuleName.contractClass_injective definition.typeName)
  have apart :
      (∀ type ∈ (definition.typeName :: dependencies.map Dependency.typeName).map
          ModuleName.identifier, ∀ name ∈ definition.contractClasses, type ≠ name) ↔
        ∀ name ∈ definition.contractClasses, name ∉ dependencies.map Dependency.typeName := by
    constructor
    · intro unlike name held imported
      obtain ⟨stem, -, rfl⟩ := List.mem_map.mp held
      exact unlike _ (List.mem_map_of_mem (List.mem_cons_of_mem _ imported)) _ held
        (ModuleName.identifier_eq_contractClass.mpr rfl)
    · intro unlike type bound name held same
      obtain ⟨stem, -, rfl⟩ := List.mem_map.mp held
      obtain ⟨typeName, listed, rfl⟩ := List.mem_map.mp bound
      obtain rfl | imported := List.mem_cons.mp listed
      · exact ModuleName.contractClass_ne_identifier _ stem same.symm
      · exact unlike _ held (ModuleName.identifier_eq_contractClass.mp same ▸ imported)
  rw [types.nodup_iff, List.nodup_append, ModuleName.identifiers_nodup distinct, classes, apart]

open Generation

/-- The names that generated modules declare, and exactly when they are distinct. Every artifact
of a type has the outline of its entry, whose statements bind a name each. If the fields or
values of the entry have different names, the members in the body of each class are distinct
unless a reserved word is stored beside the name that it is changed to. The names that the
module binds for its type, its contracts and its imports are distinct unless a reserved word
meets the name that it is changed to, two computed fields differ in the case of the first letter
alone, or a class for a contract is called like an imported type. -/
theorem generate_declaresNames {σ : Type} {registry : Registry} {injectionModule : Option Text}
    {sink : Option (Sink σ)} {start : σ} {result : GenerationResult}
    (generated : (registry.generate injectionModule sink start).outcome = .ok result) :
    ∃ outcomes middle extra,
      GenerationRun registry sink [] (registry.entriesOf .generation) start outcomes middle ∧
      result = resultBehind (resultOf outcomes) extra ∧
      ∀ artifact ∈ (resultOf outcomes).artifacts, ∃ entry ∈ registry.entriesOf .generation,
        Outlined registry entry artifact ∧
        (∀ statement ∈ entry.definition.statements,
          BindingStatement statement.boundName statement.text) ∧
        (entry.definition.memberNames.Nodup →
          ((∀ statement ∈ entry.definition.statements,
              (statement.members.map ClassMember.boundName).Nodup) ↔
            ¬ KeywordTwins entry.definition.storedNames) ∧
          ((moduleNames entry.definition artifact.dependencies).Nodup ↔
            ¬ KeywordTwins (entry.name :: artifact.dependencies.map Dependency.typeName) ∧
              entry.definition.contractStems.Nodup ∧
              ∀ name ∈ entry.definition.contractClasses,
                name ∉ artifact.dependencies.map Dependency.typeName)) := by
  obtain ⟨outcomes, middle, extra, run, -, same, outlined⟩ := generate_outlined generated
  refine ⟨outcomes, middle, extra, run, same, ?_⟩
  intro artifact member
  obtain ⟨entry, listed, reaches, outline⟩ := outlined artifact member
  refine ⟨entry, listed, outline, fun statement _ => statement.text_binds, ?_⟩
  intro distinct
  constructor
  · rw [entry.definition.statements_members_nodup]
    exact ModuleName.identifiers_nodup (distinct.sublist entry.definition.storedNames_sublist)
  · have edges : artifact.dependencies = dependencies registry entry :=
      congrArg Artifact.dependencies outline.about
    rw [edges]
    exact moduleNames_nodup reaches.2.1
      (List.nodup_cons.mpr ⟨dependencies_foreign registry entry,
        dependencies_distinct registry entry⟩)

/-- The module of a type with both contracts declares its names once each. -/
theorem generate_declaresNames_user :
    ∃ result outcomes extra,
      (userRegistry.generate none (none : Option (Sink Unit)) ()).outcome = .ok result ∧
      result.artifacts.map Artifact.typeName = [("User" : Text)] ∧
      result = resultBehind (resultOf outcomes) extra ∧
      ∀ artifact ∈ (resultOf outcomes).artifacts, ∃ entry ∈ userRegistry.entries,
        Outlined userRegistry entry artifact ∧
        (moduleNames entry.definition artifact.dependencies).Nodup ∧
        ∀ statement ∈ entry.definition.statements,
          (statement.members.map ClassMember.boundName).Nodup := by
  have listed : userRegistry.entriesOf .generation = userRegistry.entries :=
    Registry.entriesOf_eq_entries _ _ (by decide +kernel) (by decide +kernel)
  have facts : (userRegistry.generate none (none : Option (Sink Unit)) ()).outcome.toOption.map
      (fun result => result.artifacts.map Artifact.typeName) = some [("User" : Text)] := by
    unfold Registry.generate generateAll
    rw [listed]
    decide +kernel
  have apart : ∀ entry ∈ userRegistry.entries, entry.definition.memberNames.Nodup ∧
      ¬ KeywordTwins entry.definition.storedNames ∧
      ¬ KeywordTwins (entry.name :: (dependencies userRegistry entry).map Dependency.typeName) ∧
      entry.definition.contractStems.Nodup ∧
      ∀ name ∈ entry.definition.contractClasses,
        name ∉ (dependencies userRegistry entry).map Dependency.typeName := by decide +kernel
  cases generated : (userRegistry.generate none (none : Option (Sink Unit)) ()).outcome with
  | error failure =>
    rw [generated] at facts
    cases facts
  | ok result =>
    rw [generated] at facts
    obtain ⟨outcomes, -, extra, -, same, declares⟩ := generate_declaresNames generated
    refine ⟨result, outcomes, extra, rfl, Option.some.inj facts, same, ?_⟩
    intro artifact member
    obtain ⟨entry, held, outline, -, distinct⟩ := declares artifact member
    rw [listed] at held
    obtain ⟨members, stored, types, stems, classes⟩ := apart entry held
    obtain ⟨bodies, names⟩ := distinct members
    have edges : artifact.dependencies = dependencies userRegistry entry :=
      congrArg Artifact.dependencies outline.about
    refine ⟨entry, held, outline, names.mpr ?_, bodies.mpr stored⟩
    rw [edges]
    exact ⟨types, stems, classes⟩

/-- A type with two computed fields that differ in the case of a letter, and a type that stores
a field under a reserved word and another under what the word is changed to. -/
def twinRegistry : Registry :=
  (loadedRegistry [] [("s.graphql",
    "type T { a(x: Int): Int A(x: Int): Int } type U { class: Int class_: Int }")] "ns").freeze

/-- Both types are generated without a report, though their fields have different names and
their modules declare a name twice: a class for a contract, and a member of a class. -/
theorem twinRegistry_declaresTwice :
    ∃ result, (twinRegistry.generate none (none : Option (Sink Unit)) ()).outcome = .ok result ∧
      result.success = true ∧ result.artifacts.map Artifact.typeName = [("T" : Text), ("U" : Text)] ∧
      ∀ artifact ∈ result.artifacts, ∃ entry ∈ twinRegistry.entries,
        Outlined twinRegistry entry artifact ∧ entry.definition.memberNames.Nodup ∧
        ¬ ((moduleNames entry.definition artifact.dependencies).Nodup ∧
          ∀ statement ∈ entry.definition.statements,
            (statement.members.map ClassMember.boundName).Nodup) := by
  have listed : twinRegistry.entriesOf .generation = twinRegistry.entries :=
    Registry.entriesOf_eq_entries _ _ (by decide +kernel) (by decide +kernel)
  have facts : (twinRegistry.generate none (none : Option (Sink Unit)) ()).outcome.toOption.map
      (fun result => (result.success, result.artifacts.map Artifact.typeName)) =
        some (true, [("T" : Text), ("U" : Text)]) := by
    unfold Registry.generate generateAll
    rw [listed]
    decide +kernel
  have twice : ∀ entry ∈ twinRegistry.entries, entry.definition.memberNames.Nodup ∧
      ¬ ((moduleNames entry.definition (dependencies twinRegistry entry)).Nodup ∧
        ∀ statement ∈ entry.definition.statements,
          (statement.members.map ClassMember.boundName).Nodup) := by decide +kernel
  cases generated : (twinRegistry.generate none (none : Option (Sink Unit)) ()).outcome with
  | error failure =>
    rw [generated] at facts
    cases facts
  | ok result =>
    rw [generated] at facts
    obtain ⟨success, names⟩ := Prod.mk.inj (Option.some.inj facts)
    refine ⟨result, rfl, success, names, ?_⟩
    intro artifact member
    obtain ⟨outcomes, middle, extra, -, bindings, rfl, outlined⟩ := generate_outlined generated
    -- Without a name for it there is no bindings module, so every artifact is one of a type.
    have plain : extra.artifacts = [] := by
      cases bindings with
      | unwanted => rfl
      | emission wanted => cases wanted
    obtain ⟨entry, held, -, outline⟩ :=
      outlined artifact (by simpa [resultBehind, plain] using member)
    rw [listed] at held
    have edges : artifact.dependencies = dependencies twinRegistry entry :=
      congrArg Artifact.dependencies outline.about
    rw [edges]
    exact ⟨entry, held, outline, twice entry held⟩

end SchemaForge

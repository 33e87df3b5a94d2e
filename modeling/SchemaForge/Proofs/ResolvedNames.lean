import Mathlib.Data.List.Basic
import SchemaForge.Proofs.ModuleOutline

/-!
# What the names in a module stand for

A module mentions types in the annotations of its attributes, in the results of its computed
fields and in the members of a union. Which types it imports is found on another way: the
mentions of the definition are collected without wrappers and without repetitions. The two ways
meet. Every name that is written down is a builtin, the type of the module itself, or the name
that one of the imports is for; and there is an import for every mention that needs one, in the
order of first use.

An annotation is a name with lists and null values around it. The types of arguments are
imported too, though no annotation has them: they are mentioned.
-/

namespace SchemaForge

/-! ## Annotations -/

/-- A name, possibly with lists and null values around it. -/
inductive Wraps (base : Text) : Text → Prop where
  /-- The name alone. -/
  | bare : Wraps base base
  /-- Something or the null value. -/
  | nullable {text : Text} (inner : Wraps base text) : Wraps base (text ++ " | None")
  /-- A list. -/
  | list {text : Text} (inner : Wraps base text) : Wraps base (Text.concat ["list[", text, "]"])

/-- The null value is one more layer or none. -/
theorem Wraps.marked {base text : Text} (inner : Wraps base text) (nullable : Bool) :
    Wraps base (text ++ nullMark nullable) := by
  cases nullable with
  | false => simpa [nullMark] using inner
  | true => exact inner.nullable

/-- An annotation has the name of the innermost type inside all layers. -/
theorem TypeReference.annotationWhen_wraps (nullable : Bool) (type : TypeReference) :
    Wraps (annotationName type.innermost.name) (type.annotationWhen nullable) := by
  induction type generalizing nullable with
  | named type =>
    have name : Wraps (annotationName type.name) (annotationName type.name) := .bare
    have layers := name.marked nullable
    simpa [annotationWhen, innermost, Text.concat] using layers
  | list element span inductionHypothesis =>
    have layers := (inductionHypothesis true).list.marked nullable
    simpa [annotationWhen, innermost, Text.concat] using layers
  | nonNull inner span inductionHypothesis => exact inductionHypothesis false

/-- What a name of the schema stands for in the module of a type. -/
inductive Resolves (own : Text) (dependencies : List Dependency) (name : Text) : Text → Prop where
  /-- A builtin scalar stands for its type in generated code. -/
  | builtin {type : Text} (scalar : (name, type) ∈ builtinScalars) :
      Resolves own dependencies name type
  /-- The type of the module stands for itself. -/
  | itself (foreign : isBuiltinScalar name = false) (same : name = own) :
      Resolves own dependencies name (ModuleName.identifier own)
  /-- Another type stands for what is imported for it. -/
  | imported (foreign : isBuiltinScalar name = false) (other : name ≠ own)
      {dependency : Dependency} (edge : dependency ∈ dependencies)
      (named : dependency.typeName = name) :
      Resolves own dependencies name (ModuleName.identifier dependency.typeName)

/-- A name that is no builtin scalar is annotated as an identifier. -/
theorem annotationName_foreign {name : Text} (foreign : isBuiltinScalar name = false) :
    annotationName name = ModuleName.identifier name := by
  have none : builtinScalars.find? (fun scalar => decide (scalar.1 = name)) = none := by
    rw [List.find?_eq_none]
    exact fun scalar member => List.any_eq_false.mp foreign scalar member
  rw [annotationName, none]

/-- A builtin scalar is annotated as its type in generated code. -/
theorem annotationName_builtin {name : Text} (builtin : isBuiltinScalar name = true) :
    (name, annotationName name) ∈ builtinScalars := by
  obtain ⟨scalar, found⟩ : ∃ scalar,
      builtinScalars.find? (fun scalar => decide (scalar.1 = name)) = some scalar :=
    Option.isSome_iff_exists.mp (List.find?_isSome.mpr (List.any_eq_true.mp builtin))
  have named : scalar.1 = name := by simpa using List.find?_some found
  rw [annotationName, found, ← named]
  exact List.mem_of_find?_eq_some found

/-! ## Mentions -/

namespace Definition

/-- Every type that a statement is annotated with is mentioned. -/
theorem annotated_mentioned (definition : Definition) :
    ∀ statement ∈ definition.statements, ∀ reference ∈ statement.annotated,
      reference.innermost.name ∈ definition.mentions := by
  have fielded (type : FieldedType) (field : Field) (member : field ∈ type.fields) :
      field.type.innermost.name ∈ type.interfaces.map NamedType.name ++
        type.fields.flatMap (fun field => field.type.innermost.name ::
          field.arguments.map (fun argument => argument.type.innermost.name)) :=
    List.mem_append_right _ (List.mem_flatMap.mpr ⟨field, member, List.mem_cons_self⟩)
  intro statement member reference mentioned
  cases definition with
  | object type =>
    obtain rfl | member := List.mem_cons.mp member
    · obtain ⟨field, held, rfl⟩ : ∃ field ∈ type.stored, field.type = reference := by
        simpa [FieldedType.recordClass, Statement.annotated, Statement.members,
          ClassMember.annotated, eq_comm] using mentioned
      exact fielded type field (List.mem_filter.mp held).1
    · obtain member | member := List.mem_append.mp member
      · obtain ⟨-, rfl⟩ : _ ∧ statement = type.lookupClass := by simpa using member
        cases mentioned
      · obtain ⟨field, held, rfl⟩ := List.mem_map.mp member
        obtain rfl := List.mem_singleton.mp mentioned
        exact fielded type field (List.mem_filter.mp held).1
  | interface type =>
    obtain rfl := List.mem_singleton.mp member
    obtain ⟨field, held, rfl⟩ : ∃ field ∈ type.stored, field.type = reference := by
      simpa [FieldedType.protocolClass, Statement.annotated, BaseClass.annotated,
        ClassMember.annotated, eq_comm] using mentioned
    exact fielded type field (List.mem_filter.mp held).1
  | inputObject type =>
    obtain rfl := List.mem_singleton.mp member
    obtain ⟨field, held, rfl⟩ : ∃ field ∈ type.fields, field.type = reference := by
      simpa [InputType.recordClass, Statement.annotated, Statement.members,
        ClassMember.annotated, eq_comm] using mentioned
    exact List.mem_map.mpr ⟨field, held, rfl⟩
  | enum type =>
    obtain rfl := List.mem_singleton.mp member
    simp [EnumType.enumClass, Statement.annotated, BaseClass.annotated,
      ClassMember.annotated] at mentioned
  | union | scalar =>
    obtain rfl := List.mem_singleton.mp member
    cases mentioned
  | directive | schema => cases member

/-- Every type that a statement joins is mentioned. -/
theorem joined_mentioned (definition : Definition) :
    ∀ statement ∈ definition.statements, ∀ name ∈ statement.joined,
      name ∈ definition.mentions := by
  intro statement member name joined
  cases definition with
  | object type =>
    obtain rfl | member := List.mem_cons.mp member
    · cases joined
    · obtain member | member := List.mem_append.mp member
      · obtain ⟨-, rfl⟩ : _ ∧ statement = type.lookupClass := by simpa using member
        cases joined
      · obtain ⟨field, held, rfl⟩ := List.mem_map.mp member
        cases joined
  | union type =>
    obtain rfl := List.mem_singleton.mp member
    exact joined
  | interface | inputObject | enum | scalar =>
    obtain rfl := List.mem_singleton.mp member
    cases joined
  | directive | schema => cases member

end Definition

namespace Generation

variable {registry : Registry} {entry : Entry}

/-- A mention of a type that is neither builtin nor the own one has an import, if no unknown
type is mentioned. -/
theorem exists_dependency
    (known : ∀ name ∈ entry.definition.mentions, ¬ Unknown registry entry name) {name : Text}
    (mentioned : name ∈ entry.definition.mentions) (foreign : isBuiltinScalar name = false)
    (other : name ≠ entry.name) :
    ∃ dependency ∈ dependencies registry entry, dependency.typeName = name := by
  have needed : name ∈ neededNames entry := by
    rw [neededNames, referencedNames_eq, List.mem_filter, Text.mem_distinct]
    exact ⟨mentioned, by simp [foreign, other]⟩
  obtain ⟨target, found⟩ : ∃ target, registry.find? name = some target := by
    rw [← Option.isSome_iff_exists, Registry.find?, List.find?_isSome]
    by_contra missing
    refine known name mentioned ⟨foreign, other, ?_⟩
    intro target held same
    exact missing ⟨target, held, decide_eq_true same⟩
  exact ⟨Dependency.ofEntry target, mem_dependencies.mpr ⟨name, needed, target, found, rfl⟩,
    (name_of_find? found).2⟩

/-- A mention that is no builtin scalar stands for the own type or for an import. -/
theorem identifier_resolves
    (known : ∀ name ∈ entry.definition.mentions, ¬ Unknown registry entry name) {name : Text}
    (mentioned : name ∈ entry.definition.mentions) (foreign : isBuiltinScalar name = false) :
    Resolves entry.name (dependencies registry entry) name (ModuleName.identifier name) := by
  by_cases same : name = entry.name
  · rw [same]
    exact .itself (same ▸ foreign) rfl
  · obtain ⟨dependency, edge, rfl⟩ := exists_dependency known mentioned foreign same
    exact .imported foreign same edge rfl

/-- What a mention is annotated as is what it stands for. -/
theorem annotationName_resolves
    (known : ∀ name ∈ entry.definition.mentions, ¬ Unknown registry entry name) {name : Text}
    (mentioned : name ∈ entry.definition.mentions) :
    Resolves entry.name (dependencies registry entry) name (annotationName name) := by
  cases scalar : isBuiltinScalar name with
  | true => exact .builtin (annotationName_builtin scalar)
  | false =>
    rw [annotationName_foreign scalar]
    exact identifier_resolves known mentioned scalar

/-- If no unknown type is mentioned, the imports are the first uses of the types that are
neither builtin nor the own one. -/
theorem dependencies_firstUses
    (known : ∀ name ∈ entry.definition.mentions, ¬ Unknown registry entry name) :
    FirstUses entry.definition.mentions
      (fun name => isBuiltinScalar name = false ∧ name ≠ entry.name)
      ((dependencies registry entry).map Dependency.typeName) := by
  have all : ∀ name ∈ neededNames entry, (registry.find? name).isSome = true := by
    intro name needed
    have none : missingNames registry entry = [] := missingNames_eq_nil.mpr known
    have found := List.filter_eq_nil_iff.mp none name needed
    rw [Option.isNone_iff_eq_none] at found
    exact Option.isSome_iff_ne_none.mpr found
  rw [dependencies_names, List.filter_eq_self.mpr all, neededNames, referencedNames_eq]
  refine Text.firstUses_filter ?_ _
  intro name
  simp

end Generation

/-! ## Runs -/

open Generation

/-- The names in generated modules. Every artifact of a type has the outline of its entry. Each
type that a statement is annotated with is written as a name with lists and null values around
it, and that name is what the innermost type stands for: a builtin, the own type, or the type of
one import. So is each member of a union that is no builtin. The imports are for the types that
the entry mentions, less the builtins and itself, each once and in the order of first use. -/
theorem generate_resolvesNames {σ : Type} {registry : Registry} {injectionModule : Option Text}
    {sink : Option (Sink σ)} {start : σ} {result : GenerationResult}
    (generated : (registry.generate injectionModule sink start).outcome = .ok result) :
    ∃ outcomes middle extra,
      GenerationRun registry sink [] (registry.entriesOf .generation) start outcomes middle ∧
      result = resultBehind (resultOf outcomes) extra ∧
      ∀ artifact ∈ (resultOf outcomes).artifacts, ∃ entry ∈ registry.entriesOf .generation,
        Outlined registry entry artifact ∧
        (∀ statement ∈ entry.definition.statements,
          (∀ reference ∈ statement.annotated, ∃ base, Wraps base reference.annotation ∧
            Resolves entry.name artifact.dependencies reference.innermost.name base) ∧
          ∀ name ∈ statement.joined, isBuiltinScalar name = false →
            Resolves entry.name artifact.dependencies name (ModuleName.identifier name)) ∧
        FirstUses entry.definition.mentions
          (fun name => isBuiltinScalar name = false ∧ name ≠ entry.name)
          (artifact.dependencies.map Dependency.typeName) := by
  obtain ⟨outcomes, middle, extra, run, -, same, outlined⟩ := generate_outlined generated
  refine ⟨outcomes, middle, extra, run, same, ?_⟩
  intro artifact member
  obtain ⟨entry, listed, ⟨known, -⟩, outline⟩ := outlined artifact member
  have edges : artifact.dependencies = dependencies registry entry :=
    congrArg Artifact.dependencies outline.about
  refine ⟨entry, listed, outline, ?_, edges ▸ dependencies_firstUses known⟩
  intro statement held
  rw [edges]
  constructor
  · intro reference annotated
    have mentioned := entry.definition.annotated_mentioned statement held reference annotated
    exact ⟨annotationName reference.innermost.name, reference.annotationWhen_wraps true,
      annotationName_resolves known mentioned⟩
  · intro name joined foreign
    exact identifier_resolves known (entry.definition.joined_mentioned statement held name joined)
      foreign

/-- A union of a type, an enumeration that is named like a reserved word, and a builtin. The type
mentions itself in a list, and the enumeration as the result of a computed field. -/
def pageRegistry : Registry :=
  { defaultPackage := "ns", frozen := true,
    entries :=
      [⟨.union ⟨"Any", [⟨"Page", .unknown⟩, ⟨"class", .unknown⟩, ⟨"Int", .unknown⟩], [], none,
          .unknown⟩, "s.graphql", "ns", .generation⟩,
        ⟨.object ⟨"Page", [],
          [⟨"next", [], .list (.nonNull (.named ⟨"Page", .unknown⟩) .unknown) .unknown, [], none,
              .unknown⟩,
            ⟨"kind", [⟨"at", .named ⟨"Int", .unknown⟩, none, [], none, .unknown⟩],
              .nonNull (.named ⟨"class", .unknown⟩) .unknown, [], none, .unknown⟩], [], none,
          .unknown⟩, "s.graphql", "ns", .generation⟩,
        ⟨.enum ⟨"class", [], [], none, .unknown⟩, "s.graphql", "ns", .generation⟩] }

/-- The names in these modules stand for the builtins, for the type itself and for imports. -/
theorem generate_resolvesNames_page :
    ∃ result outcomes extra,
      (pageRegistry.generate none (none : Option (Sink Unit)) ()).outcome = .ok result ∧
      result.artifacts.map (fun artifact =>
        (artifact.typeName, artifact.dependencies.map Dependency.typeName)) =
          [(("Any" : Text), [("Page" : Text), ("class" : Text)]), ("Page", ["class"]),
            ("class", [])] ∧
      result = resultBehind (resultOf outcomes) extra ∧
      ∀ artifact ∈ (resultOf outcomes).artifacts, ∃ entry ∈ pageRegistry.entriesOf .generation,
        Outlined pageRegistry entry artifact ∧
        ∀ statement ∈ entry.definition.statements, ∀ reference ∈ statement.annotated,
          ∃ base, Wraps base reference.annotation ∧
            Resolves entry.name artifact.dependencies reference.innermost.name base := by
  have facts : (pageRegistry.generate none (none : Option (Sink Unit)) ()).outcome.toOption.map
      (fun result => result.artifacts.map (fun artifact =>
        (artifact.typeName, artifact.dependencies.map Dependency.typeName))) =
      some [(("Any" : Text), [("Page" : Text), ("class" : Text)]), ("Page", ["class"]),
        ("class", [])] := by
    unfold Registry.generate generateAll
    rw [Registry.entriesOf_eq_entries _ _ (by decide +kernel) (by decide +kernel)]
    decide +kernel
  cases generated : (pageRegistry.generate none (none : Option (Sink Unit)) ()).outcome with
  | error failure =>
    rw [generated] at facts
    cases facts
  | ok result =>
    rw [generated] at facts
    obtain ⟨outcomes, -, extra, -, same, resolves⟩ := generate_resolvesNames generated
    refine ⟨result, outcomes, extra, rfl, Option.some.inj facts, same, ?_⟩
    intro artifact member
    obtain ⟨entry, listed, outline, names, -⟩ := resolves artifact member
    exact ⟨entry, listed, outline, fun statement held => (names statement held).1⟩

end SchemaForge

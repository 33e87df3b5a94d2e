import SchemaForge.Proofs.BindingsListing

/-!
# The outline of a generated module

The definitions of a module are rendered to text at once, kind by kind. Behind the text is an
outline: statements that bind a name each, and, where a statement is a class, the members that
its body binds. `Definition.statements` lists them and `Statement.text` writes them down;
what is rendered is what they write, so that whatever holds of the outline holds of the text.

Names keep what they were made from. A member for a field knows the name that the schema has
for it and the type that its annotation is read off from, so the statements can be asked both
what they bind and what they mention.
-/

namespace SchemaForge

/-! ## Statements -/

/-- A member of a class. -/
inductive ClassMember where
  /-- An attribute for a field, with its type and what stands behind the type. -/
  | field (name : Text) (type : TypeReference) (rest : Text)
  /-- A value of an enumeration. -/
  | value (name : Text)
  /-- The names of the arguments of a computed field. -/
  | arguments (names : List Text)

namespace ClassMember

/-- The name that a member binds in the body of its class. -/
def boundName : ClassMember → Text
  | field name _ _ => ModuleName.identifier name
  | value name => ModuleName.identifier name
  | arguments _ => "ARGUMENTS"

/-- What a member says of the name that it binds. -/
def content : ClassMember → Text
  | field _ type rest => Text.concat [": ", type.annotation, rest]
  | value name => Text.concat [" = ", Text.quoted name]
  | arguments names =>
    Text.concat [": tuple[str, ...] = (", Text.join ", " (names.map Text.quoted), ",)"]

/-- The line of a member: the name it binds comes first. -/
def line (member : ClassMember) : Text := member.boundName ++ member.content

/-- The types that the line of a member is annotated with. -/
def annotated : ClassMember → List TypeReference
  | field _ type _ => [type]
  | value _ | arguments _ => []

end ClassMember

/-- The class that another class is derived from. -/
inductive BaseClass where
  /-- The base of interfaces. -/
  | protocol
  /-- The base of enumerations. -/
  | enumeration
  /-- The base of classes that look a type up in batches. -/
  | lookup (typeName : Text)
  /-- The base of classes that compute a value of a type. -/
  | computation (type : TypeReference)

namespace BaseClass

/-- A base class as it is written behind the name of a class. -/
def text : BaseClass → Text
  | protocol => "Protocol"
  | enumeration => "Enum"
  | lookup typeName => Text.concat ["_runtime.Resolver[", ModuleName.identifier typeName, "]"]
  | computation type =>
    Text.concat ["_runtime.FieldResolver[", Text.quoted type.annotation, "]"]

/-- The types that a base class is annotated with. -/
def annotated : BaseClass → List TypeReference
  | computation type => [type]
  | protocol | enumeration | lookup _ => []

end BaseClass

/-- A statement at the margin of a generated module. -/
inductive Statement where
  /-- A data class. -/
  | record (typeName doc : Text) (members : List ClassMember)
  /-- A class that is derived from another. -/
  | subclass (name : Text) (base : BaseClass) (doc : Text) (members : List ClassMember)
  /-- An alias for a union of types. -/
  | union (typeName : Text) (types : List Text)
  /-- A new type. -/
  | newType (typeName : Text)

namespace Statement

/-- The name that a statement binds in its module. -/
def boundName : Statement → Text
  | record typeName _ _ => ModuleName.identifier typeName
  | subclass name _ _ _ => name
  | union typeName _ => ModuleName.identifier typeName
  | newType typeName => ModuleName.identifier typeName

/-- The members in the body of a class. -/
def members : Statement → List ClassMember
  | record _ _ members => members
  | subclass _ _ _ members => members
  | union _ _ | newType _ => []

/-- The types that a statement is annotated with, in its head and in its body. -/
def annotated : Statement → List TypeReference
  | subclass _ base _ members => base.annotated ++ members.flatMap ClassMember.annotated
  | other => other.members.flatMap ClassMember.annotated

/-- The types that a statement joins under an alias. -/
def joined : Statement → List Text
  | union _ types => types
  | record .. | subclass .. | newType _ => []

/-- The body of a class with the given members. -/
def body (doc : Text) (members : List ClassMember) : Text :=
  Render.classBody doc (members.map ClassMember.line)

/-- The text of a statement. A union of nothing is any object. -/
def text : Statement → Text
  | record typeName doc members =>
    Text.concat ["@_dataclasses.dataclass(kw_only=True)\nclass ", ModuleName.identifier typeName,
      ":\n", Layout.indent indentWidth (body doc members)]
  | subclass name base doc members =>
    Text.concat ["class ", name, "(", base.text, "):\n",
      Layout.indent indentWidth (body doc members)]
  | union typeName [] => Text.concat [ModuleName.identifier typeName, ": TypeAlias = ", "object"]
  | union typeName types =>
    Text.concat [ModuleName.identifier typeName, ": TypeAlias = ",
      Text.concat ["Union[",
        Text.join ", " (types.map (fun type => Text.quoted (ModuleName.identifier type))), "]"]]
  | newType typeName =>
    Text.concat [ModuleName.identifier typeName, " = NewType(",
      Text.quoted (ModuleName.identifier typeName), ", object)"]

/-- The text of a statement binds its name. -/
theorem text_binds (statement : Statement) : BindingStatement statement.boundName statement.text := by
  cases statement with
  | record typeName doc members => exact .record (body doc members)
  | subclass name base doc members => exact .subclass base.text (body doc members)
  | union typeName types =>
    cases types with
    | nil => exact .alias "object"
    | cons first others => exact .alias _
  | newType typeName => exact .newType

end Statement

/-! ## Statements of definitions -/

/-- What stands behind the type of an attribute of a data class. -/
def attributeRest (type : TypeReference) : Option Value → Text
  | some value =>
    if value.isMutable then
      Text.concat [" = _dataclasses.field(default_factory=lambda: ", value.literal, ")"]
    else Text.concat [" = ", value.literal]
  | none => if type.isNonNull then [] else " = None"

namespace FieldedType

/-- The fields that are stored. -/
def stored (type : FieldedType) : List Field :=
  type.fields.filter (fun field => !field.isComputed)

/-- The fields that are computed. -/
def computed (type : FieldedType) : List Field := type.fields.filter Field.isComputed

/-- The data class of an object type, for its stored fields. -/
def recordClass (type : FieldedType) : Statement :=
  .record type.name
    (Render.describedOr type.description (Text.concat ["Schema type ``", type.name, "``."]))
    (type.stored.map (fun field => .field field.name field.type (attributeRest field.type none)))

/-- The protocol of an interface, for its stored fields. -/
def protocolClass (type : FieldedType) : Statement :=
  .subclass (ModuleName.identifier type.name) .protocol
    (Render.describedOr type.description (Text.concat ["Interface ``", type.name, "``."]))
    (type.stored.map (fun field => .field field.name field.type []))

/-- The class that looks a type up in batches. -/
def lookupClass (type : FieldedType) : Statement :=
  .subclass (ModuleName.batchResolver type.name) (.lookup type.name)
    (Text.concat ["Resolve ``", type.name, "`` instances from a batch of identity references."])
    []

/-- The class that computes a field of a type. -/
def computationClass (type : FieldedType) (field : Field) : Statement :=
  let arguments :=
    Text.join ", " (field.arguments.map (fun argument =>
      Text.concat [argument.name, ": ", argument.type.notated]))
  .subclass (ModuleName.fieldResolver type.name field.name) (.computation field.type)
    (Render.describedOr field.description
      (Text.concat ["Compute ``", type.name, ".", field.name, "(", arguments, ")``."]))
    [.arguments (field.arguments.map InputValue.name)]

end FieldedType

/-- The data class of an input type. -/
def InputType.recordClass (type : InputType) : Statement :=
  .record type.name
    (Render.describedOr type.description (Text.concat ["Schema type ``", type.name, "``."]))
    (type.fields.map (fun field =>
      .field field.name field.type (attributeRest field.type field.defaultValue)))

/-- The class of an enumeration. -/
def EnumType.enumClass (type : EnumType) : Statement :=
  .subclass (ModuleName.identifier type.name) .enumeration
    (Render.describedOr type.description (Text.concat ["Enum ``", type.name, "``."]))
    (type.values.map (fun value => .value value.name))

/-- The statements of the module of a definition. -/
def Definition.statements : Definition → List Statement
  | .object type =>
    let lookup := if (Definition.object type).hasIdentityField then [type.lookupClass] else []
    type.recordClass :: (lookup ++ type.computed.map type.computationClass)
  | .inputObject type => [type.recordClass]
  | .interface type => [type.protocolClass]
  | .enum type => [type.enumClass]
  | .union type => [.union type.name (type.members.map NamedType.name)]
  | .scalar type => [.newType type.name]
  | .directive _ | .schema _ => []

namespace Render

/-- The attribute of a data class is the line of a member. -/
theorem attributeLine_eq (name : Text) (type : TypeReference) (default : Option Value) :
    attributeLine name type default =
      (ClassMember.field name type (attributeRest type default)).line := by
  have factory : (" = _dataclasses.field(default_factory=lambda: " : Text) =
    (" = " : Text) ++ dataclassesAlias ++ (".field(default_factory=lambda: " : Text) := rfl
  cases default with
  | none =>
    unfold attributeLine attributeRest ClassMember.line ClassMember.boundName ClassMember.content
    cases type.isNonNull <;> simp [Text.concat]
  | some value =>
    unfold attributeLine attributeRest ClassMember.line ClassMember.boundName ClassMember.content
    dsimp only
    rw [factory]
    cases value.isMutable <;> simp [Text.concat]

/-- The data class of an object type is what its statement writes. -/
theorem objectParts_record (type : FieldedType) :
    (objectParts indentWidth type Contracts.none).body = type.recordClass.text := by
  change dataclass indentWidth type.name type.description
    (type.stored.map (fun field => attributeLine field.name field.type none)) = _
  simp only [attributeLine_eq]
  rw [FieldedType.recordClass, Statement.text, Statement.body, List.map_map]
  rfl

/-- The data class of an input type is what its statement writes. -/
theorem inputParts_record (type : InputType) :
    (inputParts indentWidth type).body = type.recordClass.text := by
  unfold inputParts
  simp only [attributeLine_eq]
  rw [InputType.recordClass, Statement.text, Statement.body, List.map_map]
  rfl

/-- The protocol of an interface is what its statement writes. -/
theorem interfaceParts_protocol (type : FieldedType) :
    (interfaceParts indentWidth type).body = type.protocolClass.text := by
  have line (field : Field) :
      Text.concat [ModuleName.identifier field.name, ": ", field.type.annotation] =
        (ClassMember.field field.name field.type []).line := by
    simp [ClassMember.line, ClassMember.boundName, ClassMember.content, Text.concat]
  unfold interfaceParts
  simp only [line]
  rw [FieldedType.protocolClass, Statement.text, Statement.body, List.map_map]
  rfl

/-- The class of an enumeration is what its statement writes. -/
theorem enumParts_class (type : EnumType) :
    (enumParts indentWidth type).body = type.enumClass.text := by
  have line (value : EnumMember) :
      Text.concat [ModuleName.identifier value.name, " = ", Text.quoted value.name] =
        (ClassMember.value value.name).line := by
    simp [ClassMember.line, ClassMember.boundName, ClassMember.content, Text.concat]
  unfold enumParts
  simp only [line]
  rw [EnumType.enumClass, Statement.text, Statement.body, List.map_map]
  rfl

/-- The alias of a union is what its statement writes. -/
theorem unionParts_alias (type : UnionType) :
    (unionParts type).body =
      (Statement.union type.name (type.members.map NamedType.name)).text := by
  unfold unionParts
  cases type.members with
  | nil => simp [Statement.text, Text.concat]
  | cons first others => simp [Statement.text, Text.concat, Function.comp_def]

/-- The class for batch lookup is what its statement writes. -/
theorem batchResolver_eq (type : FieldedType) :
    batchResolver indentWidth type.name = type.lookupClass.text := by
  have opening : ("_runtime.Resolver[" : Text) = runtimeAlias ++ (".Resolver[" : Text) := rfl
  have closing : ("):\n" : Text) = ("):" : Text) ++ newLine := rfl
  have bracket : ("]):" : Text) = ("]" : Text) ++ ("):" : Text) := rfl
  unfold batchResolver FieldedType.lookupClass Statement.text BaseClass.text Statement.body
  dsimp only
  rw [opening, closing, bracket]
  simp [Text.concat, classBody, Text.join]

/-- The class for a computed field is what its statement writes. -/
theorem fieldResolver_eq (type : FieldedType) (field : Field) :
    fieldResolver indentWidth type.name field = (type.computationClass field).text := by
  have opening : ("_runtime.FieldResolver[" : Text) =
      runtimeAlias ++ (".FieldResolver[" : Text) := rfl
  have closing : ("):\n" : Text) = ("):" : Text) ++ newLine := rfl
  have bracket : ("]):" : Text) = ("]" : Text) ++ ("):" : Text) := rfl
  have bound : ("ARGUMENTS: tuple[str, ...] = (" : Text) =
      ("ARGUMENTS" : Text) ++ (": tuple[str, ...] = (" : Text) := rfl
  unfold fieldResolver FieldedType.computationClass Statement.text BaseClass.text Statement.body
  dsimp only [ClassMember.line, ClassMember.boundName, ClassMember.content, List.map]
  rw [opening, closing, bracket, bound, List.map_map]
  simp [Text.concat, Function.comp_def]

/-- The definitions of a module are what its statements write. -/
theorem parts_statements {definition : Definition} {contracts : Contracts} {parts : Parts}
    (asked : contracts =
      ⟨definition.hasIdentityField, !definition.computedFields.isEmpty⟩)
    (rendered : Render.parts indentWidth definition contracts = .ok parts) :
    parts.body = Text.join "\n\n\n" (definition.statements.map Statement.text) := by
  subst asked
  cases definition with
  | object type =>
    cases rendered
    have resolvers : (type.fields.filter Field.isComputed).map (fieldResolver indentWidth type.name) =
        (type.computed.map type.computationClass).map Statement.text := by
      rw [List.map_map]
      exact List.map_congr_left (fun field _ => fieldResolver_eq type field)
    have lookup (identity : Bool) :
        (if identity = true then [batchResolver indentWidth type.name] else []) =
          (if identity = true then [type.lookupClass] else []).map Statement.text := by
      cases identity
      · rfl
      · exact congrArg (fun text => [text]) (batchResolver_eq type)
    have classes := objectParts_eq type (Definition.object type).hasIdentityField
    dsimp only at classes
    rw [resolvers, lookup, objectParts_record, ← List.map_append] at classes
    exact congrArg Parts.body classes
  | inputObject type =>
    cases rendered
    exact inputParts_record type
  | interface type =>
    cases rendered
    exact interfaceParts_protocol type
  | union type =>
    cases rendered
    exact unionParts_alias type
  | enum type =>
    cases rendered
    exact enumParts_class type
  | scalar type =>
    cases rendered
    rfl
  | directive _ | schema _ => cases rendered

end Render

/-! ## Artifacts -/

open Generation

/-- The artifact of an entry, whose module has the outline of the entry. Behind a comment and a
docstring come the imports, which end with a line for each edge, and then what the statements
write. -/
structure Outlined (registry : Registry) (entry : Entry) (artifact : Artifact) : Prop where
  /-- What the artifact says about itself is decided by the entry. -/
  about : artifact = artifactFor registry entry artifact.text
  /-- The module is made of its imports and its statements. -/
  text : ∃ imports, artifact.text =
      Text.concat [Render.header entry, "\n\n", Render.moduleDoc entry,
        "\n\nfrom __future__ import annotations\n\n", imports, "\n\n\n",
        Text.join "\n\n\n" (entry.definition.statements.map Statement.text), "\n"] ∧
    (artifact.dependencies ≠ [] → ∃ lead, imports =
      Text.concat [lead, "\n\nif TYPE_CHECKING:\n",
        Text.join [.lineFeed] (artifact.dependencies.map Layout.importLine)])

/-- A module that is rendered has the outline of its entry. -/
theorem outlined_of_text {registry : Registry} {entry : Entry} {text : Text}
    (rendered : textOf registry entry = .ok text) :
    Outlined registry entry (artifactFor registry entry text) := by
  obtain ⟨parts, found, layout⟩ := Render.moduleText_layout rendered
  refine ⟨rfl, Layout.imports parts.imports (dependencies registry entry), ?_, ?_⟩
  · rw [← Render.parts_statements rfl found]
    exact layout
  · exact Layout.imports_edges parts.imports

/-- The artifacts that a generation lists for types: they come from entries that have come as
far as their modules, and their modules have the outlines of these. Behind them comes at most
what the bindings module adds. -/
theorem generate_outlined {σ : Type} {registry : Registry} {injectionModule : Option Text}
    {sink : Option (Sink σ)} {start : σ} {result : GenerationResult}
    (generated : (registry.generate injectionModule sink start).outcome = .ok result) :
    ∃ outcomes middle extra,
      GenerationRun registry sink [] (registry.entriesOf .generation) start outcomes middle ∧
      BindingsOutcome registry injectionModule sink (registry.entriesOf .generation)
        (resultOf outcomes).artifacts middle extra
        (registry.generate injectionModule sink start).sinkState ∧
      result = resultBehind (resultOf outcomes) extra ∧
      ∀ artifact ∈ (resultOf outcomes).artifacts, ∃ entry ∈ registry.entriesOf .generation,
        Reaches registry entry ∧ Outlined registry entry artifact := by
  obtain ⟨frozen, proceeds⟩ := proceeds_of_generate generated
  obtain ⟨outcomes, middle, extra, run, bindings, same⟩ := generate_run_of frozen proceeds
  refine ⟨outcomes, middle, extra, run, bindings, Except.ok.inj (generated.symm.trans same), ?_⟩
  intro artifact member
  obtain ⟨entry, listed, reaches, text, rendered, rfl⟩ := run.emitted artifact member
  exact ⟨entry, listed, reaches, outlined_of_text rendered⟩

end SchemaForge

import SchemaForge.Schema.Definition

/-!
# Syntax trees without spans

Two readings of the same tokens at different places of a text differ in their
spans and in nothing else. Erasure replaces every span of a tree by the unknown
one, so that equality of erased trees is equality up to spans. Names, values,
descriptions, flags and the order of all members are kept as they are.
-/

namespace SchemaForge

mutual

/-- A value without its spans. -/
def Value.withoutSpans : Value → Value
  | .string value _ block => .string value .unknown block
  | .int digits _ => .int digits .unknown
  | .float digits _ => .float digits .unknown
  | .boolean value _ => .boolean value .unknown
  | .null _ => .null .unknown
  | .enum symbol _ => .enum symbol .unknown
  | .list values _ => .list (Value.eraseAll values) .unknown
  | .object fields _ => .object (ObjectField.eraseAll fields) .unknown

/-- The values of a list without their spans. -/
def Value.eraseAll : List Value → List Value
  | [] => []
  | value :: values => value.withoutSpans :: Value.eraseAll values

/-- The fields of an object without their spans. -/
def ObjectField.eraseAll : List ObjectField → List ObjectField
  | [] => []
  | field :: fields => ObjectField.withoutSpans field :: ObjectField.eraseAll fields

/-- A field of an object without its spans. -/
def ObjectField.withoutSpans : ObjectField → ObjectField
  | .mk name value _ => .mk name value.withoutSpans .unknown

end

/-- Erasing the values of a list erases each of them. -/
theorem Value.eraseAll_eq_map (values : List Value) :
    Value.eraseAll values = values.map Value.withoutSpans := by
  induction values with
  | nil => rfl
  | cons value values inductionHypothesis =>
    rw [Value.eraseAll, inductionHypothesis, List.map_cons]

/-- Erasing the fields of an object erases each of them. -/
theorem ObjectField.eraseAll_eq_map (fields : List ObjectField) :
    ObjectField.eraseAll fields = fields.map ObjectField.withoutSpans := by
  induction fields with
  | nil => rfl
  | cons field fields inductionHypothesis =>
    rw [ObjectField.eraseAll, inductionHypothesis, List.map_cons]

/-- An argument without its spans. -/
def Argument.withoutSpans (argument : Argument) : Argument :=
  ⟨argument.name, argument.value.withoutSpans, .unknown⟩

/-- A directive without its spans. -/
def Directive.withoutSpans (directive : Directive) : Directive :=
  ⟨directive.name, directive.arguments.map Argument.withoutSpans, .unknown⟩

/-- A mention of a type without its span. -/
def NamedType.withoutSpans (type : NamedType) : NamedType := ⟨type.name, .unknown⟩

/-- A type reference without its spans. -/
def TypeReference.withoutSpans : TypeReference → TypeReference
  | .named type => .named type.withoutSpans
  | .list element _ => .list element.withoutSpans .unknown
  | .nonNull inner _ => .nonNull inner.withoutSpans .unknown

/-- An input value without its spans. -/
def InputValue.withoutSpans (input : InputValue) : InputValue :=
  ⟨input.name, input.type.withoutSpans, input.defaultValue.map Value.withoutSpans,
    input.directives.map Directive.withoutSpans, input.description, .unknown⟩

/-- A field without its spans. -/
def Field.withoutSpans (field : Field) : Field :=
  ⟨field.name, field.arguments.map InputValue.withoutSpans, field.type.withoutSpans,
    field.directives.map Directive.withoutSpans, field.description, .unknown⟩

/-- An enum value without its spans. -/
def EnumMember.withoutSpans (member : EnumMember) : EnumMember :=
  ⟨member.name, member.directives.map Directive.withoutSpans, member.description, .unknown⟩

/-- The root type of an operation without its spans. -/
def OperationType.withoutSpans (operation : OperationType) : OperationType :=
  ⟨operation.operation, operation.type.withoutSpans, .unknown⟩

/-- An object or interface type without its spans. -/
def FieldedType.withoutSpans (type : FieldedType) : FieldedType :=
  ⟨type.name, type.interfaces.map NamedType.withoutSpans, type.fields.map Field.withoutSpans,
    type.directives.map Directive.withoutSpans, type.description, .unknown⟩

/-- A union without its spans. -/
def UnionType.withoutSpans (type : UnionType) : UnionType :=
  ⟨type.name, type.members.map NamedType.withoutSpans,
    type.directives.map Directive.withoutSpans, type.description, .unknown⟩

/-- A scalar type without its spans. -/
def ScalarType.withoutSpans (type : ScalarType) : ScalarType :=
  ⟨type.name, type.directives.map Directive.withoutSpans, type.description, .unknown⟩

/-- An enumeration without its spans. -/
def EnumType.withoutSpans (type : EnumType) : EnumType :=
  ⟨type.name, type.values.map EnumMember.withoutSpans,
    type.directives.map Directive.withoutSpans, type.description, .unknown⟩

/-- An input type without its spans. -/
def InputType.withoutSpans (type : InputType) : InputType :=
  ⟨type.name, type.fields.map InputValue.withoutSpans,
    type.directives.map Directive.withoutSpans, type.description, .unknown⟩

/-- A directive declaration without its spans. -/
def DirectiveDeclaration.withoutSpans (declaration : DirectiveDeclaration) :
    DirectiveDeclaration :=
  ⟨declaration.name, declaration.arguments.map InputValue.withoutSpans, declaration.repeatable,
    declaration.locations, declaration.description, .unknown⟩

/-- A schema block without its spans. -/
def SchemaBlock.withoutSpans (block : SchemaBlock) : SchemaBlock :=
  ⟨block.operations.map OperationType.withoutSpans, block.directives.map Directive.withoutSpans,
    block.description, .unknown⟩

namespace Definition

/-- A definition without its spans. -/
def withoutSpans : Definition → Definition
  | object type => .object type.withoutSpans
  | interface type => .interface type.withoutSpans
  | union type => .union type.withoutSpans
  | scalar type => .scalar type.withoutSpans
  | enum type => .enum type.withoutSpans
  | inputObject type => .inputObject type.withoutSpans
  | directive declaration => .directive declaration.withoutSpans
  | schema block => .schema block.withoutSpans

/-- Erasure keeps the name of the defined type. -/
@[simp] theorem typeName_withoutSpans (definition : Definition) :
    definition.withoutSpans.typeName = definition.typeName := by
  cases definition <;> rfl

/-- Erasure keeps the kind of definition. -/
@[simp] theorem kind_withoutSpans (definition : Definition) :
    definition.withoutSpans.kind = definition.kind := by
  cases definition <;> rfl

/-- A definition of a type, not of a directive and not a schema block. -/
def DefinesType (definition : Definition) : Prop := definition.kind ∉ [.directive, .schema]

instance (definition : Definition) : Decidable definition.DefinesType :=
  inferInstanceAs (Decidable (definition.kind ∉ [.directive, .schema]))

/-- Erasure keeps whether a type is defined. -/
theorem definesType_withoutSpans (definition : Definition) :
    definition.withoutSpans.DefinesType ↔ definition.DefinesType := by
  rw [DefinesType, DefinesType, kind_withoutSpans]

/-- Only the definition of a type has a name of a type. -/
theorem definesType_of_typeName {definition : Definition} (named : definition.typeName ≠ []) :
    definition.DefinesType := by
  cases definition with
  | directive declaration => exact absurd rfl named
  | schema block => exact absurd rfl named
  | _ => simp [DefinesType, kind]

end Definition

end SchemaForge

import SchemaForge.Schema.Definition

/-!
# Syntax trees at another place

A tree that was read from one place of a text can be placed elsewhere: each of its spans is
replaced, and everything else stays. The spans of interest here are those behind some lines,
where offsets and lines are later and columns are the same.

Only one law is needed of placing: a tree whose spans are left alone is left alone. With it
a reading that is carried by no distance at all is the reading itself.
-/

namespace SchemaForge

/-- A span behind some lines, which are so many code points in all. -/
def Span.shift (lines length : Nat) (span : Span) : Span :=
  ⟨span.start + length, span.stop + length, span.line + lines, span.column⟩

/-! ## Placing -/

mutual

/-- A value with its spans replaced. -/
def Value.mapSpans (place : Span → Span) : Value → Value
  | .string value span block => .string value (place span) block
  | .int digits span => .int digits (place span)
  | .float digits span => .float digits (place span)
  | .boolean value span => .boolean value (place span)
  | .null span => .null (place span)
  | .enum symbol span => .enum symbol (place span)
  | .list values span => .list (Value.mapAllSpans place values) (place span)
  | .object fields span => .object (ObjectField.mapAllSpans place fields) (place span)

/-- The values of a list with their spans replaced. -/
def Value.mapAllSpans (place : Span → Span) : List Value → List Value
  | [] => []
  | value :: values => value.mapSpans place :: Value.mapAllSpans place values

/-- The fields of an object with their spans replaced. -/
def ObjectField.mapAllSpans (place : Span → Span) : List ObjectField → List ObjectField
  | [] => []
  | field :: fields =>
    ObjectField.mapSpans place field :: ObjectField.mapAllSpans place fields

/-- A field of an object with its spans replaced. -/
def ObjectField.mapSpans (place : Span → Span) : ObjectField → ObjectField
  | .mk name value span => .mk name (value.mapSpans place) (place span)

end

section Placing

variable (place : Span → Span)

/-- Placing the values of a list places each of them. -/
theorem Value.mapAllSpans_eq_map (values : List Value) :
    Value.mapAllSpans place values = values.map (Value.mapSpans place) := by
  induction values with
  | nil => rfl
  | cons value values inductionHypothesis =>
    rw [Value.mapAllSpans, inductionHypothesis, List.map_cons]

/-- Placing the fields of an object places each of them. -/
theorem ObjectField.mapAllSpans_eq_map (fields : List ObjectField) :
    ObjectField.mapAllSpans place fields = fields.map (ObjectField.mapSpans place) := by
  induction fields with
  | nil => rfl
  | cons field fields inductionHypothesis =>
    rw [ObjectField.mapAllSpans, inductionHypothesis, List.map_cons]

/-- An argument with its spans replaced. -/
def Argument.mapSpans (argument : Argument) : Argument :=
  ⟨argument.name, argument.value.mapSpans place, place argument.span⟩

/-- A directive with its spans replaced. -/
def Directive.mapSpans (directive : Directive) : Directive :=
  ⟨directive.name, directive.arguments.map (Argument.mapSpans place), place directive.span⟩

/-- A mention of a type with its span replaced. -/
def NamedType.mapSpans (type : NamedType) : NamedType := ⟨type.name, place type.span⟩

/-- A type reference with its spans replaced. -/
def TypeReference.mapSpans : TypeReference → TypeReference
  | .named type => .named (type.mapSpans place)
  | .list element span => .list element.mapSpans (place span)
  | .nonNull inner span => .nonNull inner.mapSpans (place span)

/-- An input value with its spans replaced. -/
def InputValue.mapSpans (input : InputValue) : InputValue :=
  ⟨input.name, input.type.mapSpans place, input.defaultValue.map (Value.mapSpans place),
    input.directives.map (Directive.mapSpans place), input.description, place input.span⟩

/-- A field with its spans replaced. -/
def Field.mapSpans (field : Field) : Field :=
  ⟨field.name, field.arguments.map (InputValue.mapSpans place), field.type.mapSpans place,
    field.directives.map (Directive.mapSpans place), field.description, place field.span⟩

/-- An enum value with its spans replaced. -/
def EnumMember.mapSpans (member : EnumMember) : EnumMember :=
  ⟨member.name, member.directives.map (Directive.mapSpans place), member.description,
    place member.span⟩

/-- The root type of an operation with its spans replaced. -/
def OperationType.mapSpans (operation : OperationType) : OperationType :=
  ⟨operation.operation, operation.type.mapSpans place, place operation.span⟩

/-- An object or interface type with its spans replaced. -/
def FieldedType.mapSpans (type : FieldedType) : FieldedType :=
  ⟨type.name, type.interfaces.map (NamedType.mapSpans place),
    type.fields.map (Field.mapSpans place), type.directives.map (Directive.mapSpans place),
    type.description, place type.span⟩

/-- A union with its spans replaced. -/
def UnionType.mapSpans (type : UnionType) : UnionType :=
  ⟨type.name, type.members.map (NamedType.mapSpans place),
    type.directives.map (Directive.mapSpans place), type.description, place type.span⟩

/-- A scalar type with its spans replaced. -/
def ScalarType.mapSpans (type : ScalarType) : ScalarType :=
  ⟨type.name, type.directives.map (Directive.mapSpans place), type.description, place type.span⟩

/-- An enumeration with its spans replaced. -/
def EnumType.mapSpans (type : EnumType) : EnumType :=
  ⟨type.name, type.values.map (EnumMember.mapSpans place),
    type.directives.map (Directive.mapSpans place), type.description, place type.span⟩

/-- An input type with its spans replaced. -/
def InputType.mapSpans (type : InputType) : InputType :=
  ⟨type.name, type.fields.map (InputValue.mapSpans place),
    type.directives.map (Directive.mapSpans place), type.description, place type.span⟩

/-- A directive declaration with its spans replaced. -/
def DirectiveDeclaration.mapSpans (declaration : DirectiveDeclaration) : DirectiveDeclaration :=
  ⟨declaration.name, declaration.arguments.map (InputValue.mapSpans place),
    declaration.repeatable, declaration.locations, declaration.description,
    place declaration.span⟩

/-- A schema block with its spans replaced. -/
def SchemaBlock.mapSpans (block : SchemaBlock) : SchemaBlock :=
  ⟨block.operations.map (OperationType.mapSpans place),
    block.directives.map (Directive.mapSpans place), block.description, place block.span⟩

/-- A definition with its spans replaced. -/
def Definition.mapSpans : Definition → Definition
  | .object type => .object (type.mapSpans place)
  | .interface type => .interface (type.mapSpans place)
  | .union type => .union (type.mapSpans place)
  | .scalar type => .scalar (type.mapSpans place)
  | .enum type => .enum (type.mapSpans place)
  | .inputObject type => .inputObject (type.mapSpans place)
  | .directive declaration => .directive (declaration.mapSpans place)
  | .schema block => .schema (block.mapSpans place)

end Placing

/-! ## Spans that are left alone -/

mutual

/-- A value is left alone with its spans. -/
theorem Value.mapSpans_id_apply : ∀ value : Value, value.mapSpans id = value
  | .string _ _ _ | .int _ _ | .float _ _ | .boolean _ _ | .null _ | .enum _ _ => rfl
  | .list values span => congrArg (Value.list · span) (Value.mapAllSpans_id values)
  | .object fields span => congrArg (Value.object · span) (ObjectField.mapAllSpans_id fields)

/-- So are the values of a list. -/
theorem Value.mapAllSpans_id : ∀ values : List Value, Value.mapAllSpans id values = values
  | [] => rfl
  | value :: values => by
    rw [Value.mapAllSpans, Value.mapSpans_id_apply value, Value.mapAllSpans_id values]

/-- So are the fields of an object. -/
theorem ObjectField.mapAllSpans_id :
    ∀ fields : List ObjectField, ObjectField.mapAllSpans id fields = fields
  | [] => rfl
  | field :: fields => by
    rw [ObjectField.mapAllSpans, ObjectField.mapSpans_id_apply field,
      ObjectField.mapAllSpans_id fields]

/-- So is a field of an object. -/
theorem ObjectField.mapSpans_id_apply : ∀ field : ObjectField, field.mapSpans id = field
  | .mk name value span =>
    congrArg (ObjectField.mk name · span) (Value.mapSpans_id_apply value)

end

/-- Values are left alone. -/
@[simp] theorem Value.mapSpans_id : Value.mapSpans id = id := funext Value.mapSpans_id_apply

/-- Arguments are left alone. -/
@[simp] theorem Argument.mapSpans_id : Argument.mapSpans id = id := by
  funext argument
  simp [Argument.mapSpans]

/-- Directives are left alone. -/
@[simp] theorem Directive.mapSpans_id : Directive.mapSpans id = id := by
  funext directive
  simp [Directive.mapSpans]

/-- Mentions of types are left alone. -/
@[simp] theorem NamedType.mapSpans_id : NamedType.mapSpans id = id := rfl

/-- Type references are left alone. -/
@[simp] theorem TypeReference.mapSpans_id : TypeReference.mapSpans id = id := by
  funext type
  induction type with
  | named type => rfl
  | list element span inductionHypothesis =>
    rw [TypeReference.mapSpans, inductionHypothesis]
    rfl
  | nonNull inner span inductionHypothesis =>
    rw [TypeReference.mapSpans, inductionHypothesis]
    rfl

/-- Input values are left alone. -/
@[simp] theorem InputValue.mapSpans_id : InputValue.mapSpans id = id := by
  funext input
  simp [InputValue.mapSpans]

/-- Fields are left alone. -/
@[simp] theorem Field.mapSpans_id : Field.mapSpans id = id := by
  funext field
  simp [Field.mapSpans]

/-- Enum values are left alone. -/
@[simp] theorem EnumMember.mapSpans_id : EnumMember.mapSpans id = id := by
  funext member
  simp [EnumMember.mapSpans]

/-- Root types of operations are left alone. -/
@[simp] theorem OperationType.mapSpans_id : OperationType.mapSpans id = id := rfl

/-- Definitions are left alone. -/
@[simp] theorem Definition.mapSpans_id : Definition.mapSpans id = id := by
  funext definition
  cases definition with
  | object type => simp [Definition.mapSpans, FieldedType.mapSpans]
  | interface type => simp [Definition.mapSpans, FieldedType.mapSpans]
  | union type => simp [Definition.mapSpans, UnionType.mapSpans]
  | scalar type => simp [Definition.mapSpans, ScalarType.mapSpans]
  | enum type => simp [Definition.mapSpans, EnumType.mapSpans]
  | inputObject type => simp [Definition.mapSpans, InputType.mapSpans]
  | directive declaration => simp [Definition.mapSpans, DirectiveDeclaration.mapSpans]
  | schema block => simp [Definition.mapSpans, SchemaBlock.mapSpans]

end SchemaForge

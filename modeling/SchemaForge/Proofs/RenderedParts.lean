import SchemaForge.Proofs.GenerationAccounting
import SchemaForge.Proofs.SpanErasure

/-!
# What rendering reads of a definition

The text of a module says what its definition says, and nothing about where the definition
stands or which directives are applied to it. So definitions that differ in their spans and in
their directives alone have the same parts, mention the same types and ask for the same
contracts. The directives of a definition are read once, when its entry is built, to find the
package.
-/

namespace SchemaForge

/-! ## Types and values -/

namespace TypeReference

/-- The annotation of a type does not depend on where the type stands. -/
theorem annotationWhen_withoutSpans (nullable : Bool) (type : TypeReference) :
    type.withoutSpans.annotationWhen nullable = type.annotationWhen nullable := by
  induction type generalizing nullable with
  | named type => rfl
  | list element span inductionHypothesis =>
    rw [withoutSpans, annotationWhen, annotationWhen, inductionHypothesis]
  | nonNull inner span inductionHypothesis =>
    rw [withoutSpans, annotationWhen, annotationWhen, inductionHypothesis]

/-- Neither does its form in the schema language. -/
@[simp] theorem notated_withoutSpans (type : TypeReference) :
    type.withoutSpans.notated = type.notated := by
  induction type with
  | named type => rfl
  | list element span inductionHypothesis =>
    rw [withoutSpans, notated, notated, inductionHypothesis]
  | nonNull inner span inductionHypothesis =>
    rw [withoutSpans, notated, notated, inductionHypothesis]

/-- The annotation of a type does not depend on where the type stands. -/
@[simp] theorem annotation_withoutSpans (type : TypeReference) :
    type.withoutSpans.annotation = type.annotation :=
  annotationWhen_withoutSpans true type

/-- The name inside all wrappers is kept. -/
@[simp] theorem innermost_withoutSpans (type : TypeReference) :
    type.withoutSpans.innermost.name = type.innermost.name := by
  induction type with
  | named type => rfl
  | list element span inductionHypothesis => exact inductionHypothesis
  | nonNull inner span inductionHypothesis => exact inductionHypothesis

/-- So is whether null is forbidden. -/
@[simp] theorem isNonNull_withoutSpans (type : TypeReference) :
    type.withoutSpans.isNonNull = type.isNonNull := by
  cases type <;> rfl

end TypeReference

mutual

/-- The literal of a value does not depend on where the value stands. -/
theorem Value.literal_withoutSpans : ∀ value : Value, value.withoutSpans.literal = value.literal
  | .string .. | .int .. | .float .. | .boolean .. | .null .. | .enum .. => rfl
  | .list values _ => by
    rw [Value.withoutSpans, Value.literal, Value.literal, Value.literals_eraseAll values]
  | .object fields _ => by
    rw [Value.withoutSpans, Value.literal, Value.literal, ObjectField.literals_eraseAll fields]

/-- So do those of the values of a list. -/
theorem Value.literals_eraseAll :
    ∀ values : List Value, Value.literals (Value.eraseAll values) = Value.literals values
  | [] => rfl
  | value :: values => by
    rw [Value.eraseAll, Value.literals, Value.literals, Value.literal_withoutSpans value,
      Value.literals_eraseAll values]

/-- So do those of the fields of an object. -/
theorem ObjectField.literals_eraseAll :
    ∀ fields : List ObjectField,
      ObjectField.literals (ObjectField.eraseAll fields) = ObjectField.literals fields
  | [] => rfl
  | .mk name value _ :: fields => by
    rw [ObjectField.eraseAll, ObjectField.withoutSpans, ObjectField.literals,
      ObjectField.literals, ObjectField.literal, ObjectField.literal,
      Value.literal_withoutSpans value, ObjectField.literals_eraseAll fields]

end

/-- Whether a value must not be shared is kept. -/
theorem Value.isMutable_withoutSpans (value : Value) :
    value.withoutSpans.isMutable = value.isMutable := by
  cases value <;> rfl

/-- Whether a field is computed is kept. -/
@[simp] theorem Field.isComputed_withoutSpans (field : Field) :
    field.withoutSpans.isComputed = field.isComputed := by
  unfold isComputed withoutSpans
  cases field.arguments <;> rfl

/-- So is which fields are computed. -/
theorem Field.filter_withoutSpans (test : Field → Bool)
    (kept : ∀ field, test field.withoutSpans = test field) (fields : List Field) :
    (fields.map Field.withoutSpans).filter test = (fields.filter test).map Field.withoutSpans := by
  rw [List.filter_map]
  congr 1
  exact List.filter_congr (fun field _ => kept field)

/-! ## Definitions -/

namespace Definition

/-- A definition without its spans and without the directives applied to it. -/
def undecorated (definition : Definition) : Definition :=
  match definition.withoutSpans with
  | object type => .object { type with directives := [] }
  | interface type => .interface { type with directives := [] }
  | union type => .union { type with directives := [] }
  | scalar type => .scalar { type with directives := [] }
  | enum type => .enum { type with directives := [] }
  | inputObject type => .inputObject { type with directives := [] }
  | directive declaration => .directive declaration
  | schema block => .schema { block with directives := [] }

variable (definition : Definition)

/-- The name is kept. -/
@[simp] theorem typeName_undecorated : definition.undecorated.typeName = definition.typeName := by
  cases definition <;> rfl

/-- The kind is kept. -/
@[simp] theorem kind_undecorated : definition.undecorated.kind = definition.kind := by
  cases definition <;> rfl

/-- The types that are mentioned are kept. -/
@[simp] theorem mentions_undecorated : definition.undecorated.mentions = definition.mentions := by
  cases definition <;>
    simp [undecorated, Definition.withoutSpans, mentions, FieldedType.withoutSpans,
      UnionType.withoutSpans, InputType.withoutSpans, Field.withoutSpans,
      InputValue.withoutSpans, NamedType.withoutSpans, List.flatMap_map, Function.comp_def]

/-- So are the types that are mentioned without repetitions. -/
@[simp] theorem referencedNames_undecorated :
    definition.undecorated.referencedNames = definition.referencedNames := by
  rw [Generation.referencedNames_eq, mentions_undecorated, Generation.referencedNames_eq]

/-- Lookup by identity is kept. -/
@[simp] theorem hasIdentityField_undecorated :
    definition.undecorated.hasIdentityField = definition.hasIdentityField := by
  cases definition with
  | object type => exact List.any_map
  | _ => rfl

/-- The computed fields are kept. -/
theorem computedFields_undecorated :
    definition.undecorated.computedFields =
      definition.computedFields.map Field.withoutSpans := by
  cases definition with
  | object type => exact Field.filter_withoutSpans _ Field.isComputed_withoutSpans type.fields
  | _ => rfl

end Definition

/-! ## Modules -/

namespace Render

/-- The attribute for a field does not depend on where its type and its default stand. -/
theorem attributeLine_withoutSpans (name : Text) (type : TypeReference) (default : Option Value) :
    attributeLine name type.withoutSpans (default.map Value.withoutSpans) =
      attributeLine name type default := by
  unfold attributeLine
  cases default with
  | none => simp
  | some value =>
    simp [Value.isMutable_withoutSpans, Value.literal_withoutSpans]

/-- Neither does the class that computes it. -/
theorem fieldResolver_withoutSpans (width : Nat) (typeName : Text) (field : Field) :
    fieldResolver width typeName field.withoutSpans = fieldResolver width typeName field := by
  simp [fieldResolver, Field.withoutSpans, InputValue.withoutSpans, Function.comp_def]

/-- The parts of a module are those of its definition without spans and directives. -/
theorem parts_undecorated (width : Nat) (definition : Definition) (contracts : Contracts) :
    parts width definition.undecorated contracts = parts width definition contracts := by
  have stored (fields : List Field) : (fields.map Field.withoutSpans).filter
      (fun field => !field.isComputed) =
        (fields.filter (fun field => !field.isComputed)).map Field.withoutSpans :=
    Field.filter_withoutSpans _ (by simp) fields
  have computed (fields : List Field) : (fields.map Field.withoutSpans).filter Field.isComputed =
      (fields.filter Field.isComputed).map Field.withoutSpans :=
    Field.filter_withoutSpans _ Field.isComputed_withoutSpans fields
  cases definition with
  | object type =>
    have line (field : Field) :
        attributeLine field.withoutSpans.name field.withoutSpans.type none =
          attributeLine field.name field.type none :=
      attributeLine_withoutSpans field.name field.type none
    simp only [Definition.undecorated, Definition.withoutSpans, parts, objectParts,
      FieldedType.withoutSpans, stored, computed, List.map_map, Function.comp_def, line,
      fieldResolver_withoutSpans]
  | inputObject type =>
    have line (field : InputValue) :
        attributeLine field.withoutSpans.name field.withoutSpans.type
            field.withoutSpans.defaultValue =
          attributeLine field.name field.type field.defaultValue :=
      attributeLine_withoutSpans field.name field.type field.defaultValue
    simp only [Definition.undecorated, Definition.withoutSpans, parts, inputParts,
      InputType.withoutSpans, List.map_map, Function.comp_def, line]
  | interface type =>
    simp only [Definition.undecorated, Definition.withoutSpans, parts, interfaceParts,
      FieldedType.withoutSpans, stored, List.map_map, Function.comp_def, Field.withoutSpans,
      TypeReference.annotation_withoutSpans]
  | union type =>
    simp [Definition.undecorated, Definition.withoutSpans, parts, unionParts,
      UnionType.withoutSpans, Function.comp_def, NamedType.withoutSpans]
  | enum type =>
    simp only [Definition.undecorated, Definition.withoutSpans, parts, enumParts,
      EnumType.withoutSpans, List.map_map, Function.comp_def, EnumMember.withoutSpans]
  | scalar type => rfl
  | directive declaration => rfl
  | schema block => rfl

end Render

/-! ## Entries -/

/-- An entry without its package and without the directives that may name one. -/
def Entry.unpackaged (entry : Entry) : Entry :=
  ⟨entry.definition.undecorated, entry.source, [], entry.origin⟩

namespace Entry

/-- The name is kept. -/
@[simp] theorem name_unpackaged (entry : Entry) : entry.unpackaged.name = entry.name :=
  entry.definition.typeName_undecorated

/-- The contracts that a module has to declare are kept. -/
@[simp] theorem ofEntry_unpackaged (entry : Entry) :
    Contracts.ofEntry entry.unpackaged = Contracts.ofEntry entry := by
  simp [Contracts.ofEntry, hasIdentityField, unpackaged, Definition.computedFields_undecorated]

/-- The types that need a module are kept. -/
@[simp] theorem neededNames_unpackaged (entry : Entry) :
    Generation.neededNames entry.unpackaged = Generation.neededNames entry := by
  unfold Generation.neededNames
  rw [name_unpackaged]
  exact congrArg _ entry.definition.referencedNames_undecorated

/-- The docstring of the module is kept. -/
@[simp] theorem moduleDoc_unpackaged (entry : Entry) :
    Render.moduleDoc entry.unpackaged = Render.moduleDoc entry := by
  unfold Render.moduleDoc kind
  rw [name_unpackaged]
  simp [unpackaged]

/-- The parts of the module are kept. -/
@[simp] theorem parts_unpackaged (width : Nat) (entry : Entry) (contracts : Contracts) :
    Render.parts width entry.unpackaged.definition contracts =
      Render.parts width entry.definition contracts :=
  Render.parts_undecorated width entry.definition contracts

end Entry

end SchemaForge

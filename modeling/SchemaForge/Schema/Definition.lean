import SchemaForge.Schema.Position

/-!
# Definitions of a schema

The syntax tree of the schema language. A definition is one of eight kinds, and
each kind has only the fields that make sense for it. Six kinds define a type and
have a name that the registry knows; a directive declaration and a schema block
define none. Every node keeps the span of the text it was read from.
-/

namespace SchemaForge

mutual

/-- A constant value. Numbers keep their source spelling. -/
inductive Value where
  | string (value : Text) (span : Span) (block : Bool)
  | int (digits : Text) (span : Span)
  | float (digits : Text) (span : Span)
  | boolean (value : Bool) (span : Span)
  | null (span : Span)
  | enum (symbol : Text) (span : Span)
  | list (values : List Value) (span : Span)
  | object (fields : List ObjectField) (span : Span)

/-- A named value inside an object value. -/
inductive ObjectField where
  | mk (name : Text) (value : Value) (span : Span)

end

instance : Inhabited Value := ⟨.null .unknown⟩

/-- The name of a field of an object value. -/
def ObjectField.name : ObjectField → Text
  | mk name _ _ => name

/-- The value of a field of an object value. -/
def ObjectField.value : ObjectField → Value
  | mk _ value _ => value

/-- The span of a field of an object value. -/
def ObjectField.span : ObjectField → Span
  | mk _ _ span => span

/-- What a value is called when another kind of value was wanted. -/
def Value.label : Value → Text
  | string .. => "StringValue"
  | int .. => "IntValue"
  | float .. => "FloatValue"
  | boolean .. => "BooleanValue"
  | null .. => "NullValue"
  | enum .. => "EnumValue"
  | list .. => "ListValue"
  | object .. => "ObjectValue"

/-- The span of a value. -/
def Value.span : Value → Span
  | string _ span _ => span
  | int _ span => span
  | float _ span => span
  | boolean _ span => span
  | null span => span
  | enum _ span => span
  | list _ span => span
  | object _ span => span

/-- An argument of an applied directive. -/
structure Argument where
  /-- The name of the argument. -/
  name : Text
  /-- The value given for it. -/
  value : Value
  /-- The text it was read from. -/
  span : Span

/-- A directive as it is applied to a definition or a member. -/
structure Directive where
  /-- The name behind the at sign. -/
  name : Text
  /-- The arguments in source order. -/
  arguments : List Argument
  /-- The text it was read from. -/
  span : Span

/-- A mention of a type by name. -/
structure NamedType where
  /-- The name of the type. -/
  name : Text
  /-- The text it was read from. -/
  span : Span
deriving DecidableEq, Inhabited

/-- A reference to a type, possibly wrapped. -/
inductive TypeReference where
  /-- A type by its name. -/
  | named (type : NamedType)
  /-- A list of values of a type. -/
  | list (element : TypeReference) (span : Span)
  /-- A type without the null value. -/
  | nonNull (inner : TypeReference) (span : Span)
deriving DecidableEq, Inhabited

namespace TypeReference

/-- The named type inside all wrappers. -/
def innermost : TypeReference → NamedType
  | named type => type
  | list element _ => element.innermost
  | nonNull inner _ => inner.innermost

/-- The span of a type reference. -/
def span : TypeReference → Span
  | named type => type.span
  | list _ span => span
  | nonNull _ span => span

/-- A type reference as the schema language writes it. -/
def notated : TypeReference → Text
  | named type => type.name
  | list element _ => Text.concat ["[", element.notated, "]"]
  | nonNull inner _ => inner.notated ++ "!"

/-- Whether the outermost wrapper forbids null. -/
def isNonNull : TypeReference → Bool
  | nonNull .. => true
  | _ => false

end TypeReference

/-- An argument of a field or a directive declaration, or a field of an input type. -/
structure InputValue where
  /-- The name of the argument or field. -/
  name : Text
  /-- Its type. -/
  type : TypeReference
  /-- The value it has when none is given. -/
  defaultValue : Option Value
  /-- The directives applied to it. -/
  directives : List Directive
  /-- The string in front of it. -/
  description : Option Text
  /-- The text it was read from. -/
  span : Span

/-- A field of an object or interface type. -/
structure Field where
  /-- The name of the field. -/
  name : Text
  /-- The arguments it takes. -/
  arguments : List InputValue
  /-- The type of its value. -/
  type : TypeReference
  /-- The directives applied to it. -/
  directives : List Directive
  /-- The string in front of it. -/
  description : Option Text
  /-- The text it was read from. -/
  span : Span

/-- A field that takes arguments is computed on demand and not stored. -/
def Field.isComputed (field : Field) : Bool := !field.arguments.isEmpty

/-- A value of an enumeration. -/
structure EnumMember where
  /-- The name of the value. -/
  name : Text
  /-- The directives applied to it. -/
  directives : List Directive
  /-- The string in front of it. -/
  description : Option Text
  /-- The text it was read from. -/
  span : Span

/-- The root type of one operation. -/
structure OperationType where
  /-- The operation: query, mutation or subscription. -/
  operation : Text
  /-- The type it starts from. -/
  type : NamedType
  /-- The text it was read from. -/
  span : Span

/-- An object or interface type. -/
structure FieldedType where
  /-- The name of the type. -/
  name : Text
  /-- The interfaces it implements. -/
  interfaces : List NamedType
  /-- Its fields in source order. -/
  fields : List Field
  /-- The directives applied to it. -/
  directives : List Directive
  /-- The string in front of it. -/
  description : Option Text
  /-- The text it was read from. -/
  span : Span

/-- A union of types. -/
structure UnionType where
  /-- The name of the type. -/
  name : Text
  /-- The types it joins. -/
  members : List NamedType
  /-- The directives applied to it. -/
  directives : List Directive
  /-- The string in front of it. -/
  description : Option Text
  /-- The text it was read from. -/
  span : Span

/-- A scalar type. -/
structure ScalarType where
  /-- The name of the type. -/
  name : Text
  /-- The directives applied to it. -/
  directives : List Directive
  /-- The string in front of it. -/
  description : Option Text
  /-- The text it was read from. -/
  span : Span

/-- An enumeration. -/
structure EnumType where
  /-- The name of the type. -/
  name : Text
  /-- Its values in source order. -/
  values : List EnumMember
  /-- The directives applied to it. -/
  directives : List Directive
  /-- The string in front of it. -/
  description : Option Text
  /-- The text it was read from. -/
  span : Span

/-- An input type. -/
structure InputType where
  /-- The name of the type. -/
  name : Text
  /-- Its fields in source order. -/
  fields : List InputValue
  /-- The directives applied to it. -/
  directives : List Directive
  /-- The string in front of it. -/
  description : Option Text
  /-- The text it was read from. -/
  span : Span

/-- The declaration of a directive. -/
structure DirectiveDeclaration where
  /-- The name behind the at sign. -/
  name : Text
  /-- The arguments it takes. -/
  arguments : List InputValue
  /-- Whether it may be applied more than once. -/
  repeatable : Bool
  /-- Where it may be applied. -/
  locations : List Text
  /-- The string in front of it. -/
  description : Option Text
  /-- The text it was read from. -/
  span : Span

/-- A schema block. -/
structure SchemaBlock where
  /-- The root types, at least one. -/
  operations : List OperationType
  /-- The directives applied to it. -/
  directives : List Directive
  /-- The string in front of it. -/
  description : Option Text
  /-- The text it was read from. -/
  span : Span

/-- The kinds of definition. -/
inductive DefinitionKind where
  | object | interface | union | scalar | enum | inputObject | directive | schema
deriving DecidableEq, Inhabited

namespace DefinitionKind

/-- The label of a kind. -/
def label : DefinitionKind → Text
  | object => "object"
  | interface => "interface"
  | union => "union"
  | scalar => "scalar"
  | enum => "enum"
  | inputObject => "input_object"
  | directive => "directive"
  | schema => "schema"

end DefinitionKind

/-- A top-level definition. -/
inductive Definition where
  | object (type : FieldedType)
  | interface (type : FieldedType)
  | union (type : UnionType)
  | scalar (type : ScalarType)
  | enum (type : EnumType)
  | inputObject (type : InputType)
  | directive (declaration : DirectiveDeclaration)
  | schema (block : SchemaBlock)

namespace Definition

/-- The kind of a definition. -/
def kind : Definition → DefinitionKind
  | object _ => .object
  | interface _ => .interface
  | union _ => .union
  | scalar _ => .scalar
  | enum _ => .enum
  | inputObject _ => .inputObject
  | directive _ => .directive
  | schema _ => .schema

/-- The name of the type that is defined, and the empty text if none is. -/
def typeName : Definition → Text
  | object type | interface type => type.name
  | union type => type.name
  | scalar type => type.name
  | enum type => type.name
  | inputObject type => type.name
  | directive _ | schema _ => []

/-- The span of a definition. -/
def span : Definition → Span
  | object type | interface type => type.span
  | union type => type.span
  | scalar type => type.span
  | enum type => type.span
  | inputObject type => type.span
  | directive declaration => declaration.span
  | schema block => block.span

/-- The directives applied to a definition. A directive declaration has none. -/
def directives : Definition → List Directive
  | object type | interface type => type.directives
  | union type => type.directives
  | scalar type => type.directives
  | enum type => type.directives
  | inputObject type => type.directives
  | directive _ => []
  | schema block => block.directives

/-- The fields of an object type that take arguments; no other kind has any. -/
def computedFields : Definition → List Field
  | object type => type.fields.filter Field.isComputed
  | _ => []

/-- An object type with a field named `id` can be looked up by identity. Interfaces
and input types never can, whatever their fields. -/
def hasIdentityField : Definition → Bool
  | object type => type.fields.any (fun field => decide (field.name = ("id" : Text)))
  | _ => false

/-- Every type name that a definition mentions, once, in the order of first mention:
interfaces first, then for each field its type and the types of its arguments. -/
def referencedNames : Definition → List Text
  | object type | interface type =>
    Text.distinct (type.interfaces.map NamedType.name ++
      type.fields.flatMap (fun field =>
        field.type.innermost.name ::
          field.arguments.map (fun argument => argument.type.innermost.name)))
  | inputObject type => Text.distinct (type.fields.map (fun field => field.type.innermost.name))
  | union type => Text.distinct (type.members.map NamedType.name)
  | scalar _ | enum _ | directive _ | schema _ => []

end Definition

end SchemaForge

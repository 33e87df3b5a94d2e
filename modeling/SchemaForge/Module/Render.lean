import SchemaForge.Module.Annotation
import SchemaForge.Module.Layout
import SchemaForge.Module.Literal

/-!
# Rendering modules

One module for each entry. Object and input types become data classes, interfaces
protocols, unions type aliases, enumerations enums with string values, and
scalars new types. Fields that take arguments are not stored; an object type
declares a resolver class for each of them, and one more for batch lookup if it
has an identity field.

The modules under the two reserved names are imported by every data class, so a
schema name equal to one of them cannot be rendered.
-/

namespace SchemaForge

/-- Why an entry cannot be rendered. -/
inductive RenderFault where
  /-- Schema names that the imports of generated modules reserve. -/
  | reservedNames (names : List Text) (typeName : Text)
  /-- A definition that defines no type. -/
  | notAType (kind : DefinitionKind) (name : Text)
  /-- A literal was asked for where there is no value. -/
  | missingValue
deriving DecidableEq

/-- The wording of a render fault. -/
def RenderFault.message : RenderFault → Text
  | reservedNames names typeName =>
    Text.concat [Text.join ", " (names.map Text.quoted), " cannot be used as a name in ",
      Text.quoted typeName, ": reserved for imports in generated modules"]
  | notAType kind name =>
    Text.concat ["Cannot render ", kind.label, " definition ", Text.quoted name]
  | missingValue => "Unsupported value node None"

/-- The literal of a value that may be missing. -/
def literalOf : Option Value → Except RenderFault Text
  | some value => .ok value.literal
  | none => .error .missingValue

namespace Render

/-- The name under which data classes are imported. -/
def dataclassesAlias : Text := "_dataclasses"

/-- The name under which the runtime is imported. -/
def runtimeAlias : Text := "_runtime"

/-- The names that imports of generated modules reserve, sorted. -/
def reservedNames : List Text := [dataclassesAlias, runtimeAlias]

/-- The import of data classes. -/
def dataclassesImport : Text := "import dataclasses as " ++ dataclassesAlias

/-- The import of the runtime. -/
def runtimeImport : Text := "from apigen import runtime as " ++ runtimeAlias

/-- The new line. -/
def newLine : Text := [.lineFeed]

/-- The schema names that a module of the definition binds or declares. -/
def boundNames (definition : Definition) : List Text :=
  match definition with
  | .object type => type.name :: type.fields.map Field.name
  | .inputObject type => type.name :: type.fields.map InputValue.name
  | other => [other.typeName]

/-- The reserved names among those that a definition would bind. -/
def clashingNames (definition : Definition) : List Text :=
  reservedNames.filter (fun name => (boundNames definition).contains name)

/-- The description of a definition or a member, unless it is missing or empty. -/
def describedOr (description : Option Text) (otherwise : Text) : Text :=
  match description with
  | none | some [] => otherwise
  | some description => description

/-- The attribute of a data class for a field with its type and its default. -/
def attributeLine (name : Text) (type : TypeReference) (default : Option Value) : Text :=
  let declared := Text.concat [ModuleName.identifier name, ": ", type.annotation]
  match default with
  | some value =>
    if value.isMutable then
      Text.concat [declared, " = ", dataclassesAlias, ".field(default_factory=lambda: ",
        value.literal, ")"]
    else Text.concat [declared, " = ", value.literal]
  | none => if type.isNonNull then declared else declared ++ " = None"

/-- A class body: its docstring, and its members behind an empty line. -/
def classBody (doc : Text) (members : List Text) : Text :=
  let head := Layout.docstring doc
  Text.join newLine (if members.isEmpty then [head] else head :: [] :: members)

/-- A data class with the given attributes. -/
def dataclass (width : Nat) (name : Text) (description : Option Text) (attributes : List Text) :
    Text :=
  Text.concat ["@", dataclassesAlias, ".dataclass(kw_only=True)", newLine, "class ",
    ModuleName.identifier name, ":", newLine,
    Layout.indent width
      (classBody (describedOr description (Text.concat ["Schema type ``", name, "``."]))
        attributes)]

/-- The class that looks a type up in batches. -/
def batchResolver (width : Nat) (typeName : Text) : Text :=
  Text.concat ["class ", ModuleName.batchResolver typeName, "(", runtimeAlias, ".Resolver[",
    ModuleName.identifier typeName, "]):", newLine,
    Layout.indent width
      (Layout.docstring
        (Text.concat ["Resolve ``", typeName,
          "`` instances from a batch of identity references."]))]

/-- The class that computes one field of a type. -/
def fieldResolver (width : Nat) (typeName : Text) (field : Field) : Text :=
  let arguments :=
    Text.join ", " (field.arguments.map (fun argument =>
      Text.concat [argument.name, ": ", argument.type.notated]))
  let argumentNames :=
    Text.join ", " (field.arguments.map (fun argument => Text.quoted argument.name))
  let doc :=
    describedOr field.description
      (Text.concat ["Compute ``", typeName, ".", field.name, "(", arguments, ")``."])
  let body :=
    classBody doc [Text.concat ["ARGUMENTS: tuple[str, ...] = (", argumentNames, ",)"]]
  Text.concat ["class ", ModuleName.fieldResolver typeName field.name, "(", runtimeAlias,
    ".FieldResolver[", Text.quoted field.type.annotation, "]):", newLine,
    Layout.indent width body]

/-- The imports and the body of a module. -/
structure Parts where
  /-- The lines that import from the library and the runtime. -/
  imports : List Text
  /-- The definitions of the module. -/
  body : Text

/-- The parts of a module for an object type. -/
def objectParts (width : Nat) (type : FieldedType) (contracts : Contracts) : Parts :=
  let stored := type.fields.filter (fun field => !field.isComputed)
  let computed := type.fields.filter Field.isComputed
  let record :=
    dataclass width type.name type.description
      (stored.map (fun field => attributeLine field.name field.type none))
  let batch := if contracts.batchLookup then [batchResolver width type.name] else []
  let resolvers :=
    if contracts.fieldResolution then computed.map (fieldResolver width type.name) else []
  ⟨if contracts.any then [dataclassesImport, runtimeImport] else [dataclassesImport],
    Text.join [.lineFeed, .lineFeed, .lineFeed] (record :: batch ++ resolvers)⟩

/-- The parts of a module for an input type. -/
def inputParts (width : Nat) (type : InputType) : Parts :=
  ⟨[dataclassesImport],
    dataclass width type.name type.description
      (type.fields.map (fun field => attributeLine field.name field.type field.defaultValue))⟩

/-- The parts of a module for an interface. -/
def interfaceParts (width : Nat) (type : FieldedType) : Parts :=
  let stored := type.fields.filter (fun field => !field.isComputed)
  let doc := describedOr type.description (Text.concat ["Interface ``", type.name, "``."])
  let members :=
    stored.map (fun field =>
      Text.concat [ModuleName.identifier field.name, ": ", field.type.annotation])
  ⟨["from typing import Protocol"],
    Text.concat ["class ", ModuleName.identifier type.name, "(Protocol):", newLine,
      Layout.indent width (classBody doc members)]⟩

/-- The parts of a module for a union. A union of nothing is any object. -/
def unionParts (type : UnionType) : Parts :=
  let declared := ModuleName.identifier type.name ++ ": TypeAlias = "
  if type.members.isEmpty then ⟨["from typing import TypeAlias"], declared ++ "object"⟩
  else
    let members :=
      Text.join ", " (type.members.map (fun member =>
        Text.quoted (ModuleName.identifier member.name)))
    ⟨["from typing import TypeAlias, Union"], Text.concat [declared, "Union[", members, "]"]⟩

/-- The parts of a module for an enumeration. -/
def enumParts (width : Nat) (type : EnumType) : Parts :=
  let doc := describedOr type.description (Text.concat ["Enum ``", type.name, "``."])
  let members :=
    type.values.map (fun value =>
      Text.concat [ModuleName.identifier value.name, " = ", Text.quoted value.name])
  ⟨["from enum import Enum"],
    Text.concat ["class ", ModuleName.identifier type.name, "(Enum):", newLine,
      Layout.indent width (classBody doc members)]⟩

/-- The parts of a module for a scalar. -/
def scalarParts (type : ScalarType) : Parts :=
  let name := ModuleName.identifier type.name
  ⟨["from typing import NewType"],
    Text.concat [name, " = NewType(", Text.quoted name, ", object)"]⟩

/-- The parts of a module, by the kind of the definition. -/
def parts (width : Nat) (definition : Definition) (contracts : Contracts) :
    Except RenderFault Parts :=
  match definition with
  | .object type => .ok (objectParts width type contracts)
  | .inputObject type => .ok (inputParts width type)
  | .interface type => .ok (interfaceParts width type)
  | .union type => .ok (unionParts type)
  | .enum type => .ok (enumParts width type)
  | .scalar type => .ok (scalarParts type)
  | .directive _ | .schema _ => .error (.notAType definition.kind definition.typeName)

/-- The first line of a module for an entry. -/
def header (entry : Entry) : Text :=
  Text.concat ["# Generated by apigen from ", entry.location, ". Do not edit."]

/-- The docstring of a module for an entry. -/
def moduleDoc (entry : Entry) : Text :=
  let kind := Text.replace ('_' : Char) [] " " entry.kind.label
  Layout.docstring (Text.concat ["Generated module for ", kind, " ``", entry.name, "``."])

/-- The text of the module for an entry, with indentation of the given width. -/
def moduleText (width : Nat) (entry : Entry) (dependencies : List Dependency)
    (contracts : Contracts) : Except RenderFault Text :=
  let clashing := clashingNames entry.definition
  if clashing.isEmpty then
    match parts width entry.definition contracts with
    | .error fault => .error fault
    | .ok parts =>
      let sections :=
        [header entry, moduleDoc entry, "from __future__ import annotations",
          Layout.imports parts.imports dependencies, newLine ++ parts.body]
      .ok (Text.join [.lineFeed, .lineFeed] (sections.filter (fun part => !part.isEmpty)) ++
        newLine)
  else .error (.reservedNames clashing entry.name)

end Render

end SchemaForge

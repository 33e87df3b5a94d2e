import SchemaForge.Module.Name
import SchemaForge.Schema.Definition

/-!
# Annotations

The annotation of a type reference in generated code. Every layer that allows
null adds `| None`, a non-null wrapper takes it away, a list wraps its element,
and the innermost name is a builtin or an identifier.
-/

namespace SchemaForge

/-- The builtin scalars of the schema language and what they are in generated code. -/
def builtinScalars : List (Text × Text) :=
  [("ID", "str"), ("String", "str"), ("Int", "int"), ("Float", "float"), ("Boolean", "bool")]

/-- Whether a name is that of a builtin scalar. -/
def isBuiltinScalar (name : Text) : Bool := builtinScalars.any (fun scalar => scalar.1 = name)

/-- The name of a type in generated code. -/
def annotationName (name : Text) : Text :=
  match builtinScalars.find? (fun scalar => decide (scalar.1 = name)) with
  | some scalar => scalar.2
  | none => ModuleName.identifier name

/-- What a layer that allows null adds to its annotation. -/
def nullMark (nullable : Bool) : Text := if nullable then " | None" else []

namespace TypeReference

/-- The annotation of a type reference, with or without the null value at the
outermost layer. -/
def annotationWhen (nullable : Bool) : TypeReference → Text
  | named type => Text.concat [annotationName type.name, nullMark nullable]
  | list element _ =>
    Text.concat ["list[", element.annotationWhen true, "]", nullMark nullable]
  | nonNull inner _ => inner.annotationWhen false

/-- The annotation of a type reference. -/
def annotation (type : TypeReference) : Text := type.annotationWhen true

end TypeReference

end SchemaForge

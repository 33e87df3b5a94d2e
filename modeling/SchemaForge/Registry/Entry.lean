import SchemaForge.Problem

/-!
# Type entries

An entry is a definition together with what generation needs to know about it:
the schema it came from, the package of its module, and whether this build
generates it or only refers to it.

The package is decided by the first directive of a definition alone. If that is
`@java` with an argument `package`, the argument names the package and must be a
string; in every other case the default holds, also when a later directive would
have named one.
-/

namespace SchemaForge

/-- Where an entry came from. -/
inductive Origin where
  /-- From a dependency that is already built: known, never generated. -/
  | reference
  /-- From the schemas of this build: generated. -/
  | generation
deriving DecidableEq, Inhabited

/-- The label of an origin. -/
def Origin.label : Origin → Text
  | reference => "reference"
  | generation => "generation"

/-- The package argument of the directive that customizes a definition. -/
def Directive.packageArgument? (directive : Directive) : Option Argument :=
  if directive.name = ("java" : Text) then
    directive.arguments.find? (fun argument => decide (argument.name = ("package" : Text)))
  else none

/-- The package of a definition with the given directives. -/
def resolvePackage (directives : List Directive) (default location : Text) :
    Except Problem Text :=
  match directives with
  | [] => .ok default
  | first :: _ =>
    match first.packageArgument? with
    | none => .ok default
    | some argument =>
      match argument.value with
      | .string package _ _ => .ok package
      | other =>
        .error (.directiveValue first.name argument.name location
          ("expected a string literal, got " ++ other.label))

/-- A definition with what generation needs to know about it. -/
structure Entry where
  /-- The definition. -/
  definition : Definition
  /-- The schema it came from. -/
  source : Text
  /-- The dotted package of its module. -/
  package : Text
  /-- Whether it is generated or only referred to. -/
  origin : Origin

namespace Entry

/-- The name of the type, empty if the definition defines none. -/
def name (entry : Entry) : Text := entry.definition.typeName

/-- The kind of the definition. -/
def kind (entry : Entry) : DefinitionKind := entry.definition.kind

/-- Whether the type can be looked up by identity. -/
def hasIdentityField (entry : Entry) : Bool := entry.definition.hasIdentityField

/-- Where the definition stands. -/
def location (entry : Entry) : Text :=
  renderLocation (some entry.source) entry.definition.span.line entry.definition.span.column

/-- Whether this build generates the type. -/
def isGenerated (entry : Entry) : Bool := entry.origin = .generation

/-- The entry of a definition. -/
def build (definition : Definition) (source default : Text) (origin : Origin) :
    Except Problem Entry :=
  let location := renderLocation (some source) definition.span.line definition.span.column
  match resolvePackage definition.directives default location with
  | .ok package => .ok ⟨definition, source, package, origin⟩
  | .error problem => .error problem

/-- Entries are listed by package and then by name. -/
def le (left right : Entry) : Bool :=
  if left.package = right.package then Text.le left.name right.name
  else Text.le left.package right.package

end Entry

end SchemaForge

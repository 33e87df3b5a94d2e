import SchemaForge.Diagnostic
import SchemaForge.Module.Name
import SchemaForge.Registry.Entry

/-!
# Artifacts and results

An artifact is one generated module with the edges to the modules it imports and
the contracts it declares. A result is the artifacts of a run with everything the
run found; it is a success if no finding is an error.
-/

namespace SchemaForge

/-- The resolver contracts that a module declares. -/
structure Contracts where
  /-- Instances are looked up by identity, many at once. -/
  batchLookup : Bool
  /-- Fields that take arguments are computed one by one. -/
  fieldResolution : Bool
deriving DecidableEq, Inhabited

namespace Contracts

/-- No contract. -/
def none : Contracts := ⟨false, false⟩

/-- Whether any contract is declared. -/
def any (contracts : Contracts) : Bool := contracts.batchLookup || contracts.fieldResolution

/-- The contracts that the module of an entry has to declare. -/
def ofEntry (entry : Entry) : Contracts :=
  ⟨entry.hasIdentityField, !entry.definition.computedFields.isEmpty⟩

end Contracts

/-- An import of another type's module. -/
structure Dependency where
  /-- The type that is imported. -/
  typeName : Text
  /-- The package of its module. -/
  package : Text
  /-- Whether the module is generated here. -/
  origin : Origin
deriving DecidableEq, Inhabited

namespace Dependency

/-- The edge to the module of an entry. -/
def ofEntry (entry : Entry) : Dependency := ⟨entry.name, entry.package, entry.origin⟩

/-- The name of the imported module. -/
def moduleName (dependency : Dependency) : Text := ModuleName.ofType dependency.typeName

/-- The dotted path of the imported module. -/
def importPath (dependency : Dependency) : Text :=
  Text.concat [dependency.package, ".", dependency.moduleName]

end Dependency

/-- One generated module. -/
structure Artifact where
  /-- The dotted package of the module. -/
  package : Text
  /-- The type it was generated for. -/
  typeName : Text
  /-- Its source text. -/
  text : Text
  /-- The modules it imports, in the order of first use. -/
  dependencies : List Dependency := []
  /-- The contracts it declares. -/
  contracts : Contracts := Contracts.none
  /-- The fields that get a resolver, in source order. -/
  computedFields : List Text := []
deriving DecidableEq, Inhabited

namespace Artifact

/-- The name of the module. -/
def moduleName (artifact : Artifact) : Text := ModuleName.ofType artifact.typeName

/-- The dotted path of the module. -/
def qualifiedName (artifact : Artifact) : Text :=
  Text.concat [artifact.package, ".", artifact.moduleName]

/-- The file of the module below the output root. -/
def relativePath (artifact : Artifact) : Text :=
  Text.join "/" (Text.splitOn ('.' : Char) artifact.package ++ [artifact.moduleName ++ ".py"])

/-- Whether the module imports a type. -/
def dependsOn (artifact : Artifact) (typeName : Text) : Bool :=
  artifact.dependencies.any (fun dependency => decide (dependency.typeName = typeName))

end Artifact

/-- What a run produced and found. -/
structure GenerationResult where
  /-- The modules, in the order they were generated. -/
  artifacts : List Artifact := []
  /-- The findings, in order. -/
  diagnostics : List Diagnostic := []
deriving DecidableEq, Inhabited

namespace GenerationResult

/-- The findings that are errors. -/
def errors (result : GenerationResult) : List Diagnostic :=
  result.diagnostics.filter Diagnostic.isError

/-- No finding is an error. -/
def success (result : GenerationResult) : Bool := !result.diagnostics.any Diagnostic.isError

/-- The first artifact of a type. -/
def artifactFor? (result : GenerationResult) (typeName : Text) : Option Artifact :=
  result.artifacts.find? (fun artifact => decide (artifact.typeName = typeName))

/-- A result on one line. -/
def summary (result : GenerationResult) : Text :=
  Text.concat ["Generation ", if result.success then "succeeded" else "failed", ": ",
    Text.ofNat result.artifacts.length, " module(s), ", Text.ofNat result.errors.length,
    " error(s), ", Text.ofNat (result.diagnostics.length - result.errors.length),
    " other diagnostic(s)"]

end GenerationResult

end SchemaForge

import SchemaForge.Module.Layout

/-!
# The bindings module

The bindings module lists every contract that the modules of a run declare, so
that an application can bind them: one table from types to their batch lookup
classes, one from fields to their resolver classes. Both are ordered by type
name, and the fields of a type keep their source order.
-/

namespace SchemaForge.Bindings

/-- The lines that bind the batch contract of an artifact. -/
def batchLines (artifact : Artifact) : List Text :=
  if artifact.contracts.batchLookup then
    let path :=
      Text.concat [artifact.qualifiedName, ".", ModuleName.batchResolver artifact.typeName]
    [Text.concat [Text.quoted artifact.typeName, ": ", Text.quoted path, ","]]
  else []

/-- The lines that bind the field contracts of an artifact. -/
def fieldLines (artifact : Artifact) : List Text :=
  if artifact.contracts.fieldResolution then
    artifact.computedFields.map (fun field =>
      let path :=
        Text.concat [artifact.qualifiedName, ".",
          ModuleName.fieldResolver artifact.typeName field]
      Text.concat [Text.quoted (Text.concat [artifact.typeName, ".", field]), ": ",
        Text.quoted path, ","])
  else []

/-- A table of the bindings module with the given lines. -/
def table (width : Nat) (name : Text) (lines : List Text) : List Text :=
  Text.concat [name, ": dict[str, str] = \x7b"] :: lines.map (Layout.indent width) ++
    [Text.ofString "\x7d"]

/-- The text of the module that lists every declared contract, by type name. -/
def moduleText (width : Nat) (name : Text) (artifacts : List Artifact) : Text :=
  let ordered :=
    artifacts.mergeSort (fun left right => Text.le left.typeName right.typeName)
  let opening : List Text :=
    ["# Generated by apigen. Do not edit.", [],
      Layout.docstring (Text.concat ["Resolver contracts to bind in ``", name, "``."]), [],
      "from __future__ import annotations", []]
  let lines :=
    opening ++ table width "RESOLVERS" (ordered.flatMap batchLines) ++ [[]] ++
      table width "FIELD_RESOLVERS" (ordered.flatMap fieldLines)
  Text.join [.lineFeed] lines ++ [.lineFeed]

end SchemaForge.Bindings

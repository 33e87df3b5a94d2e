import SchemaForge.Module.Artifact
import SchemaForge.Text.Lines
import SchemaForge.Text.Quoted

/-!
# Layout of generated modules

Indentation, docstrings and import blocks: the pieces that modules of every kind
are put together from.
-/

namespace SchemaForge.Layout

/-- The text with every line indented by a number of blanks. Lines of white space
become empty, and lines end wherever `Text.splitLines` ends them. -/
def indent (blanks : Nat) (text : Text) : Text :=
  Text.join [.lineFeed]
    ((Text.splitLines text).map (fun line =>
      if Text.isBlank line then [] else Text.blanks blanks ++ line))

/-- A text between triple quotes. Backslashes are doubled and triple quotes inside
are escaped; a text of several lines is closed on a line of its own. -/
def docstring (text : Text) : Text :=
  let doubled := Text.replace .backslash [] [.backslash, .backslash] text
  let escaped :=
    Text.replace .quote [.quote, .quote]
      [.backslash, .quote, .backslash, .quote, .backslash, .quote] doubled
  let marks : Text := [.quote, .quote, .quote]
  if Text.contains .lineFeed escaped then Text.concat [marks, escaped, [.lineFeed], marks]
  else Text.concat [marks, escaped, marks]

/-- Sorted by code points. -/
def sorted (lines : List Text) : List Text := lines.mergeSort Text.le

/-- Adds a name to an import from the typing module, keeping the names sorted and
distinct. -/
def addImportedName (line name : Text) : Text :=
  let lead : Text := "from typing import "
  let names := (Text.splitOn (',' : Char) (line.drop lead.length)).map Text.strip
  lead ++ Text.join ", " (sorted (Text.distinct (names ++ [name])))

/-- Whether a line imports from the typing module. -/
def importsTyping (line : Text) : Bool := Text.startsWith line "from typing import"

/-- Whether a line imports from the runtime of the generated code. -/
def importsRuntime (line : Text) : Bool := Text.startsWith line "from apigen"

/-- The line that imports another type's module for type checking. -/
def importLine (dependency : Dependency) : Text :=
  Text.concat ["    from ", dependency.importPath, " import ",
    ModuleName.identifier dependency.typeName]

/-- The import block: library imports sorted, then the runtime, then the edges to
other modules, which only a type checker follows. -/
def imports (lines : List Text) (dependencies : List Dependency) : Text :=
  let library := lines.filter (fun line => !importsRuntime line)
  let runtime := lines.filter importsRuntime
  let library :=
    if dependencies.isEmpty then library
    else if library.any importsTyping then
      library.map (fun line =>
        if importsTyping line then addImportedName line "TYPE_CHECKING" else line)
    else library ++ [Text.ofString "from typing import TYPE_CHECKING"]
  let newLine : Text := [.lineFeed]
  let blocks := [Text.join newLine (sorted library)]
  let blocks := if runtime.isEmpty then blocks else blocks ++ [Text.join newLine runtime]
  let blocks :=
    if dependencies.isEmpty then blocks
    else blocks ++ [Text.join newLine ("if TYPE_CHECKING:" :: dependencies.map importLine)]
  Text.join [.lineFeed, .lineFeed] blocks

end SchemaForge.Layout

import SchemaForge.Proofs.ImportLines
import SchemaForge.Proofs.SpelledDefinitions

/-!
# Reading generated modules

The text of a module is read as a module of the generated language: its comment is passed over,
its docstring comes first, then the imports, and then the statements of its definition. Three
things that come from outside are written into it as they are, and each can spoil it: the path of
the schema stands in the comment, the packages of the types that are mentioned stand in the
imports, and the descriptions stand in the docstrings. So what they have to be like is said of an
entry, and whoever meets it has a module that is read.

Imports for type checking are lines under a condition. They are the last of the imports, and no
other line of the module is indented under that condition.
-/

namespace SchemaForge

open LogicalLine ModuleSyntax Generation

/-! ## Comments -/

/-- A text that does not end the comment that it stands in. -/
def Text.InComment (text : Text) : Prop := ∀ c ∈ text, isSource c = true ∧ c ≠ .lineFeed

instance (text : Text) : Decidable text.InComment := by
  unfold Text.InComment
  infer_instance

/-- Such texts can be put one behind the other. -/
theorem Text.InComment.concat {parts : List Text} (each : ∀ part ∈ parts, part.InComment) :
    (Text.concat parts).InComment := by
  intro c member
  obtain ⟨part, listed, inside⟩ := List.mem_flatten.mp member
  exact each part listed c inside

/-- A number is such a text. -/
theorem Text.InComment.ofInt (number : Int) : (Text.ofInt number).InComment := by
  have digits (number : Nat) : (Text.ofNat number).InComment := by
    refine List.forall_mem_map.mpr fun digit inside => ?_
    have plain : CodePoint.isNameRest digit = true := by
      have decimal := Nat.isDigit_of_mem_toDigits (by decide) (by decide) inside
      simp only [Char.isDigit, Bool.and_eq_true, decide_eq_true_eq, ge_iff_le,
        UInt32.le_iff_toNat_le] at decimal
      simp only [CodePoint.isNameRest, CodePoint.isDigit, CodePoint.between, Bool.or_eq_true,
        Bool.and_eq_true, decide_eq_true_eq]
      exact .inr decimal
    refine ⟨(Bool.and_eq_true_iff.mp (isPlain_of_isNameRest plain)).1, ?_⟩
    intro feed
    rw [feed] at plain
    exact absurd plain (by decide)
  cases number with
  | ofNat number => exact digits number
  | negSucc number =>
    have sign : isSource '-' = true ∧ CodePoint.ofChar '-' ≠ .lineFeed := by decide
    exact List.forall_mem_cons.mpr ⟨sign, digits (number + 1)⟩

/-- A location is one if its source is. -/
theorem Text.InComment.location {source : Text} (named : source.InComment) (line column : Int) :
    (renderLocation (some source) line column).InComment := by
  have behind (name : Text) (given : name.InComment) :
      (Text.concat [name, ":[", Text.ofInt line, ", ", Text.ofInt column, "]"]).InComment := by
    refine .concat ?_
    simp only [List.forall_mem_cons]
    exact ⟨given, by decide, .ofInt line, by decide, .ofInt column, by decide,
      List.forall_mem_nil _⟩
  cases source with
  | nil => exact behind "<unknown>" (by decide)
  | cons c rest => exact behind (c :: rest) named

/-- The comment of a module is on no line. -/
theorem lined_header {entry : Entry} (source : entry.source.InComment) :
    Lined (Render.header entry) [] := by
  have rest : Text.InComment (Text.concat [" Generated by apigen from ", entry.location,
      ". Do not edit."]) := by
    refine .concat ?_
    simp only [List.forall_mem_cons]
    exact ⟨by decide, source.location _ _, by decide, List.forall_mem_nil _⟩
  have passed : ∀ text : Text, text.InComment →
      Takes (Reader.turn {} .comment) (text ++ [.lineFeed]) {} [] := by
    intro text passes
    induction text with
    | nil => rfl
    | cons c text inductionHypothesis =>
      obtain ⟨⟨source, other⟩, further⟩ := List.forall_mem_cons.mp passes
      have stays : (Reader.turn {} .comment).step c = some (Reader.turn {} .comment, []) := by
        rw [Reader.step, if_pos source]
        exact if_neg other
      exact .cons stays (inductionHypothesis further)
  have opens : (Reader.mk 0 [] [] (.margin 0)).step '#' = some (Reader.turn {} .comment, []) := rfl
  exact Takes.cons opens (passed _ rest)

/-! ## Imports -/

namespace Layout

/-- The lines by which a module imports from the library and from the runtime. -/
def leadLines (lines : List Text) (checked : Bool) : List Text :=
  let library := lines.filter (fun line => !importsRuntime line)
  let library :=
    if checked then
      if library.any importsTyping then
        library.map (fun line =>
          if importsTyping line then addImportedName line "TYPE_CHECKING" else line)
      else library ++ [Text.ofString "from typing import TYPE_CHECKING"]
    else library
  sorted library ++ lines.filter importsRuntime

/-- The import of the module of a type. -/
def importOf (dependency : Dependency) : Text :=
  Text.concat ["from ", dependency.importPath, " import ",
    ModuleName.identifier dependency.typeName]

/-- The lines of the imports of modules of types: a condition, and one line for each. -/
def edgeLines (dependencies : List Dependency) : List LogicalLine :=
  if dependencies = [] then []
  else checkCondition ::
    dependencies.map (fun dependency => ⟨indentWidth, importOf dependency⟩)

/-- The imports of modules of types are indented. -/
theorem importLine_indented (dependency : Dependency) :
    importLine dependency = Text.blanks indentWidth ++ importOf dependency := by
  have lead : ("    from " : Text) = Text.blanks indentWidth ++ Text.ofString "from " := rfl
  rw [importLine, lead, importOf]
  simp [Text.concat]

/-- Lines of code at the margin are read as they stand. -/
theorem lined_lines {texts : List Text} (each : ∀ text ∈ texts, CodeLine text) :
    Lined (Text.join [.lineFeed] texts) (texts.map (LogicalLine.mk 0)) := by
  have alone : List.Forall₂ Lined texts (texts.map (fun text => [⟨0, text⟩])) := by
    rw [List.forall₂_map_right_iff, List.forall₂_same]
    exact fun text member => (each text member).lined 0
  have whole := Lined.join 0 alone
  rwa [← List.flatMap_def, ← List.map_eq_flatMap] at whole

/-- The imports of a module are read line by line. -/
theorem lined_imports {lines : List Text} {dependencies : List Dependency}
    (lead : ∀ line ∈ leadLines lines (!dependencies.isEmpty), CodeLine line)
    (edges : ∀ dependency ∈ dependencies, CodeLine (importOf dependency)) :
    Lined (imports lines dependencies)
      ((leadLines lines (!dependencies.isEmpty)).map (LogicalLine.mk 0) ++
        edgeLines dependencies) := by
  have edged : Lined (Text.join [.lineFeed] ("if TYPE_CHECKING:" :: dependencies.map importLine))
      (checkCondition ::
        dependencies.map (fun dependency => ⟨indentWidth, importOf dependency⟩)) := by
    have condition : Snippet "if TYPE_CHECKING:" := .plain (by decide)
    have below : List.Forall₂ Lined (dependencies.map importLine)
        (dependencies.map (fun dependency => [⟨indentWidth, importOf dependency⟩])) := by
      rw [List.forall₂_map_left_iff, List.forall₂_map_right_iff, List.forall₂_same]
      intro dependency member
      rw [importLine_indented]
      exact (edges dependency member).lined indentWidth
    have whole := Lined.join 0 (.cons (lined_snippet condition rfl (by decide) 0) below)
    rwa [List.flatten_cons, ← List.flatMap_def, ← List.map_eq_flatMap] at whole
  obtain ⟨library, runtime⟩ := List.forall_mem_append.mp lead
  have library := lined_lines library
  have runtime := lined_lines runtime
  have both := Lined.join 1 (.cons library (.cons runtime .nil))
  have ended := Lined.join 1 (.cons library (.cons edged .nil))
  have all := Lined.join 1 (.cons library (.cons runtime (.cons edged .nil)))
  unfold imports leadLines edgeLines
  cases dependencies with
  | nil =>
    cases found : lines.filter importsRuntime with
    | nil => simpa [found] using Lined.join 1 (.cons library .nil)
    | cons =>
      rw [found] at both
      simpa [found] using both
  | cons first others =>
    cases found : lines.filter importsRuntime with
    | nil => simpa [found] using ended
    | cons =>
      rw [found] at all
      simpa [found] using all

/-- An import of names stays on its line. -/
theorem codeLine_names {path : Text} {names : List Text} (module : IsModulePath path)
    (present : path ≠ "__future__") (some : names ≠ []) (bound : ∀ name ∈ names, CanBind name) :
    CodeLine (Text.concat ["from ", path, " import ", Text.join ", " names]) := by
  have coded : ∀ name ∈ names, Coded name := fun name member => .identifier (bound name member).1
  obtain ⟨snippet, line⟩ := Coded.items coded
  have inPath : ∀ c ∈ path, isPlain c = true ∧ c.isLineEnd = false := by
    obtain ⟨dots, rest, ⟨parts, -, identifiers, rfl⟩, rfl⟩ := module
    intro c member
    have dotted : isPlain '.' = true ∧ CodePoint.isLineEnd '.' = false := by decide
    obtain dot | inside := List.mem_append.mp member
    · rw [List.eq_of_mem_replicate dot]
      exact dotted
    · obtain dot | ⟨part, listed, inside⟩ := Text.mem_join inside
      · rw [List.mem_singleton.mp dot]
        exact dotted
      · have usable := Coded.identifier (identifiers part listed)
        have named := isNameRest_of_isName (identifiers part listed).1 c inside
        exact ⟨isPlain_of_isNameRest named, usable.line c inside⟩
  have statement := SimpleStatement.names module present some bound
  have whole : Text.concat ["from ", path, " import ", Text.join ", " names] =
      "from " ++ (path ++ (" import " ++ Text.join ", " names)) := by simp [Text.concat]
  rw [whole] at statement ⊢
  refine ⟨statement, ?_, ?_, rfl⟩
  · exact .behind (by decide) (.behind (fun c member => (inPath c member).1)
      (.behind (by decide) snippet))
  · exact .append (by decide) (.append (fun c member => (inPath c member).2)
      (.append (by decide) line))

/-- So does an import from the typing module. -/
theorem codeLine_typing {names : List Text} (some : names ≠ [])
    (bound : ∀ name ∈ names, CanBind name) :
    CodeLine ("from typing import " ++ Text.join ", " names) := by
  have typing : IsModulePath "typing" :=
    ⟨0, "typing", isDottedName_library (by simp [libraryNames]), rfl⟩
  have lead : ("from typing import " : Text) =
      Text.ofString "from " ++ (Text.ofString "typing" ++ Text.ofString " import ") := rfl
  have whole := codeLine_names typing (by decide) some bound
  rw [lead]
  simpa [Text.concat] using whole

/-- The names that a line imports from the typing module. -/
def importedNames (line : Text) : List Text :=
  let given := line.drop (Text.ofString "from typing import ").length
  (Text.splitOn (',' : Char) given).map Text.strip

/-- With one more name, a line that imports names from the typing module still does. -/
theorem codeLine_addImportedName {line : Text} (bound : ∀ name ∈ importedNames line, CanBind name) :
    CodeLine (addImportedName line "TYPE_CHECKING") := by
  have member {name : Text} : name ∈ sorted (Text.distinct (importedNames line ++
      [Text.ofString "TYPE_CHECKING"])) ↔ name ∈ importedNames line ∨ name = "TYPE_CHECKING" := by
    rw [sorted, List.mem_mergeSort, Text.mem_distinct, List.mem_append, List.mem_singleton]
  refine codeLine_typing (List.ne_nil_of_mem (member.mpr (.inr rfl))) ?_
  intro name listed
  obtain given | rfl := member.mp listed
  · exact bound name given
  · exact canBind_library _ (by simp [libraryNames])

/-- The lines that modules of all kinds import by. -/
def knownLines : List Text :=
  [Render.dataclassesImport, Render.runtimeImport, "from typing import Protocol",
    "from typing import TypeAlias", "from typing import TypeAlias, Union", "from enum import Enum",
    "from typing import NewType", "from typing import TYPE_CHECKING"]

/-- They import a module under another name, or names from a module. -/
theorem knownLines_eq :
    knownLines =
      [Text.concat ["import ", "dataclasses", " as ", "_dataclasses"],
        Text.concat ["from ", "apigen", " import ", "runtime", " as ", "_runtime"],
        "from typing import " ++ Text.join ", " ["Protocol"],
        "from typing import " ++ Text.join ", " ["TypeAlias"],
        "from typing import " ++ Text.join ", " ["TypeAlias", "Union"],
        Text.concat ["from ", "enum", " import ", Text.join ", " ["Enum"]],
        "from typing import " ++ Text.join ", " ["NewType"],
        "from typing import " ++ Text.join ", " ["TYPE_CHECKING"]] := by
  decide +kernel

/-- Each of them is a line of code. -/
theorem codeLine_known : ∀ line ∈ knownLines, CodeLine line := by
  have path (name : Text) (listed : name ∈ libraryNames) : IsModulePath name :=
    ⟨0, name, isDottedName_library listed, rfl⟩
  have typing (name : Text) (others : List Text) (listed : name :: others ⊆ libraryNames) :=
    codeLine_typing (List.cons_ne_nil name others)
      (fun _ member => canBind_library _ (listed member))
  have dataclasses : CodeLine (Text.concat ["import ", "dataclasses", " as ", "_dataclasses"]) := by
    have dotted : IsDottedName "dataclasses" := isDottedName_library (by simp [libraryNames])
    have called : CanBind "_dataclasses" := canBind_library _ (by simp [libraryNames])
    refine ⟨.module dotted called, .plain ?_, ?_, rfl⟩
    all_goals decide +kernel
  have runtime :
      CodeLine (Text.concat ["from ", "apigen", " import ", "runtime", " as ", "_runtime"]) := by
    have apigen := path "apigen" (by simp [libraryNames])
    have given : IsIdentifier "runtime" := (canBind_library _ (by simp [libraryNames])).1
    have called : CanBind "_runtime" := canBind_library _ (by simp [libraryNames])
    refine ⟨.renamed apigen (by decide) given called, .plain ?_, ?_, rfl⟩
    all_goals decide +kernel
  have enum : CodeLine (Text.concat ["from ", "enum", " import ", Text.join ", " ["Enum"]]) :=
    codeLine_names (path "enum" (by simp [libraryNames])) (by decide) (List.cons_ne_nil _ [])
      (List.forall_mem_singleton.mpr (canBind_library _ (by simp [libraryNames])))
  rw [knownLines_eq]
  simp only [List.forall_mem_cons]
  exact ⟨dataclasses, runtime, typing "Protocol" [] (by simp [libraryNames]),
    typing "TypeAlias" [] (by simp [libraryNames]),
    typing "TypeAlias" ["Union"] (by simp [libraryNames]), enum,
    typing "NewType" [] (by simp [libraryNames]),
    typing "TYPE_CHECKING" [] (by simp [libraryNames]), List.forall_mem_nil _⟩

/-- What the lines import from the typing module can be bound. -/
theorem canBind_known : ∀ line ∈ knownLines, importsTyping line = true →
    ∀ name ∈ importedNames line, CanBind name := by decide +kernel

/-- The imports of a module are lines of code. -/
theorem codeLine_lead {lines : List Text} (known : ∀ line ∈ lines, line ∈ knownLines)
    (checked : Bool) : ∀ line ∈ leadLines lines checked, CodeLine line := by
  have given : ∀ line ∈ lines.filter (fun line => !importsRuntime line), line ∈ knownLines :=
    fun line member => known line (List.mem_of_mem_filter member)
  refine List.forall_mem_append.mpr ⟨?_, fun line member =>
    codeLine_known line (known line (List.mem_of_mem_filter member))⟩
  intro line member
  rw [sorted, List.mem_mergeSort] at member
  split at member
  · split at member
    · obtain ⟨other, listed, rfl⟩ := List.mem_map.mp member
      split
      · next typing =>
        exact codeLine_addImportedName (canBind_known other (given other listed) typing)
      · exact codeLine_known other (given other listed)
    · obtain listed | added := List.mem_append.mp member
      · exact codeLine_known line (given line listed)
      · rw [List.mem_singleton.mp added]
        exact codeLine_known _ (by simp [knownLines])
  · exact codeLine_known line (given line member)

end Layout

/-- The imports of a module are known. -/
theorem Render.parts_known {definition : Definition} {contracts : Contracts} {parts : Parts}
    (rendered : Render.parts indentWidth definition contracts = .ok parts) :
    ∀ line ∈ parts.imports, line ∈ Layout.knownLines := by
  cases definition with
  | object type =>
    cases rendered
    unfold objectParts
    dsimp only
    cases contracts.any <;> simp [Layout.knownLines]
  | union type =>
    cases rendered
    unfold unionParts
    split <;> exact List.forall_mem_singleton.mpr (by simp [Layout.knownLines])
  | inputObject _ | interface _ | enum _ | scalar _ =>
    cases rendered
    exact List.forall_mem_singleton.mpr (by simp [Layout.knownLines])
  | directive _ | schema _ => cases rendered

/-! ## Modules -/

/-- An entry whose module can be read. -/
structure Entry.Readable (registry : Registry) (entry : Entry) : Prop where
  /-- The path of the schema does not end the comment. -/
  source : entry.source.InComment
  /-- The definition can be read. -/
  definition : entry.definition.Readable
  /-- The modules of the types that are mentioned have paths that can be imported from. -/
  paths : ∀ dependency ∈ dependencies registry entry, IsModulePath dependency.importPath
  /-- What is imported from them can be bound. -/
  names : ∀ dependency ∈ dependencies registry entry,
    CanBind (ModuleName.identifier dependency.typeName)

/-- The lines of the module of an entry: its docstring, its imports and its statements. -/
def Entry.lines (entry : Entry) (lead : List Text) (dependencies : List Dependency) :
    List LogicalLine :=
  ⟨0, Render.moduleDoc entry⟩ :: ⟨0, futureImport⟩ ::
    (lead.map (LogicalLine.mk 0) ++ (Layout.edgeLines dependencies ++
      entry.definition.statements.flatMap Statement.lines))

/-- The docstring of a module can be said. -/
theorem lined_moduleDoc {entry : Entry} (named : entry.name.isName = true) :
    IsDocstring (Render.moduleDoc entry) ∧
      Lined (Render.moduleDoc entry) [⟨0, Render.moduleDoc entry⟩] := by
  have kinds : ∀ kind : DefinitionKind,
      Text.Unquoted (Text.replace ('_' : Char) [] " " kind.label) := by
    intro kind
    cases kind <;> decide +kernel
  have said : Text.Unquoted (Text.concat ["Generated module for ",
      Text.replace ('_' : Char) [] " " entry.kind.label, " ``", entry.name, "``."]) := by
    refine .concat ?_
    simp only [List.forall_mem_cons]
    exact ⟨by decide, kinds entry.kind, by decide, .name (isNameRest_of_isName named), by decide,
      List.forall_mem_nil _⟩
  refine lined_docstring said.quotable ?_
  intro returned
  exact absurd (said _ returned).1 (by decide)

namespace Generation

variable {registry : Registry} {entry : Entry} {text : Text}

/-- The imports of the modules of types are lines of code. -/
theorem codeLine_importOf (readable : entry.Readable registry) :
    ∀ dependency ∈ dependencies registry entry, CodeLine (Layout.importOf dependency) := by
  intro dependency member
  have present : dependency.importPath ≠ "__future__" := by
    intro same
    have dot : CodePoint.ofChar '.' ∈ dependency.importPath := by
      simp [Dependency.importPath, Text.concat, Text.ofString]
    rw [same] at dot
    exact absurd dot (by decide)
  have names := Layout.codeLine_names (readable.paths dependency member) present
    (List.cons_ne_nil _ []) (List.forall_mem_singleton.mpr (readable.names dependency member))
  rwa [Text.join] at names

/-- The imports of the modules of types are one statement, if there are any. -/
theorem block_edgeLines (readable : entry.Readable registry) :
    Block 0 (Layout.edgeLines (dependencies registry entry)) := by
  have imports := codeLine_importOf readable
  have checking : Expression "TYPE_CHECKING" :=
    .path (isDottedName_library (by simp [libraryNames]))
  unfold Layout.edgeLines
  split
  · exact .done
  · next some =>
    have body : Block indentWidth ((dependencies registry entry).map
        (fun dependency => ⟨indentWidth, Layout.importOf dependency⟩)) := by
      have simple : Block indentWidth _ := .ofSimple (List.forall_mem_map.mpr
        (fun dependency member => (imports dependency member).statement))
      rwa [List.map_map] at simple
    have whole := Block.condition checking (show 0 < indentWidth by decide) (by simpa using some)
      body .done
    rwa [List.append_nil] at whole

/-- The module of a readable entry is read as its lines, and they are a module. -/
theorem reads_module (spelled : SyntaxNode.Spelled (.definition entry.definition))
    (readable : entry.Readable registry) (rendered : textOf registry entry = .ok text) :
    ∃ lead : List Text, (∀ line ∈ lead, CodeLine line) ∧
      LogicalLine.ofText text = some (entry.lines lead (dependencies registry entry)) ∧
      IsModule (entry.lines lead (dependencies registry entry)) := by
  obtain ⟨parts, found, layout⟩ := Render.moduleText_layout rendered
  have defines : entry.definition.DefinesType := (parts_isOk _ _ _).mp ⟨parts, found⟩
  have named : entry.name.isName = true := Definition.typeName_spelled spelled defines
  have lead := Layout.codeLine_lead (Render.parts_known found)
    (!(dependencies registry entry).isEmpty)
  have proper := Definition.statements_proper spelled readable.definition
  obtain ⟨literal, documented⟩ := lined_moduleDoc named
  refine ⟨_, lead, ?_, ?_⟩
  · have body : Lined parts.body (entry.definition.statements.flatMap Statement.lines) := by
      have each : List.Forall₂ Lined (entry.definition.statements.map Statement.text)
          (entry.definition.statements.map Statement.lines) := by
        rw [List.forall₂_map_left_iff, List.forall₂_map_right_iff, List.forall₂_same]
        exact fun statement member => (proper statement member).lined
      rw [Render.parts_statements rfl found, List.flatMap_def]
      exact Lined.join 2 each
    have future : Lined futureImport [⟨0, futureImport⟩] := by
      have snippet : Snippet futureImport := .plain (by decide)
      exact lined_snippet snippet rfl (by decide) 0
    have imports := Layout.lined_imports lead (codeLine_importOf readable)
    have whole := (lined_header readable.source).append (documented.append
      (future.append (imports.append
        (body.ended.behindFeeds 2)).behindEmpty).behindEmpty).behindEmpty
    have divided : ("\n\nfrom __future__ import annotations\n\n" : Text) =
        [.lineFeed, .lineFeed] ++ (futureImport ++ [.lineFeed, .lineFeed]) := rfl
    have once : ("\n" : Text) = [.lineFeed] := rfl
    have twice : ("\n\n" : Text) = [.lineFeed, .lineFeed] := rfl
    have thrice : ("\n\n\n" : Text) = .lineFeed :: List.replicate 2 .lineFeed := rfl
    refine Lined.ofText ?_
    rw [layout, divided, once, twice, thrice]
    simpa only [Entry.lines, Text.concat, List.flatten_cons, List.flatten_nil, List.append_nil,
      List.append_assoc, List.cons_append, List.nil_append] using whole
  · exact .intro literal ((Block.ofSimple (fun line member => (lead line member).statement)).append
      ((block_edgeLines readable).append (Statement.block_lines proper)))

/-! ## What a module binds and imports -/

/-- The lines of an entry bind its type at the margin. -/
theorem lines_bind (defines : entry.definition.DefinesType) (lead : List Text)
    (imported : List Dependency) :
    ∃ line ∈ entry.lines lead imported, line.indent = 0 ∧
      BindsName (ModuleName.identifier entry.name) line.text := by
  have names := Definition.statements_boundNames defines
  cases statements : entry.definition.statements with
  | nil =>
    rw [statements] at names
    cases names
  | cons statement others =>
    rw [statements, List.map_cons] at names
    obtain ⟨line, member, margin, binds⟩ := statement.lines_bind
    refine ⟨line, ?_, margin, (List.cons.inj names).1 ▸ binds⟩
    simp [Entry.lines, statements, member]

/-- The module of a readable entry binds its type. -/
theorem moduleBinds (spelled : SyntaxNode.Spelled (.definition entry.definition))
    (readable : entry.Readable registry) (rendered : textOf registry entry = .ok text) :
    ModuleBinds (ModuleName.identifier entry.name) text := by
  obtain ⟨lead, -, reads, module⟩ := reads_module spelled readable rendered
  have defines := ((textOf_isOk registry entry).mp ⟨text, rendered⟩).1
  exact ⟨_, reads, module, lines_bind defines lead _⟩

/-- Nothing is checked in front of the condition. -/
theorem checkedLines_append {front : List LogicalLine}
    (unlike : ∀ line ∈ front, line ≠ checkCondition) (back : List LogicalLine) :
    checkedLines (front ++ back) = checkedLines back := by
  induction front with
  | nil => rfl
  | cons line front inductionHypothesis =>
    obtain ⟨first, others⟩ := List.forall_mem_cons.mp unlike
    rw [List.cons_append, checkedLines, if_neg first, inductionHypothesis others]

/-- Under the condition stand the imports of the modules of types, and nothing else. -/
theorem checkedLines_eq (spelled : SyntaxNode.Spelled (.definition entry.definition))
    (readable : entry.Readable registry) (defines : entry.definition.DefinesType)
    {lead : List Text} (code : ∀ line ∈ lead, CodeLine line) :
    checkedLines (entry.lines lead (dependencies registry entry)) =
      (dependencies registry entry).map Layout.importOf := by
  have proper := Definition.statements_proper spelled readable.definition
  have literal := (lined_moduleDoc (Definition.typeName_spelled spelled defines)).1
  have front : ∀ line ∈ ⟨0, Render.moduleDoc entry⟩ :: ⟨0, futureImport⟩ ::
      lead.map (LogicalLine.mk 0), line ≠ checkCondition := by
    refine List.forall_mem_cons.mpr ⟨(SimpleStatement.docstring literal).ne_checkCondition 0,
      List.forall_mem_cons.mpr ⟨by decide, List.forall_mem_map.mpr fun line member => ?_⟩⟩
    exact (code line member).statement.ne_checkCondition 0
  have behind : ∀ line ∈ entry.definition.statements.flatMap Statement.lines,
      line ≠ checkCondition := by
    intro line member
    obtain ⟨statement, listed, inside⟩ := List.mem_flatMap.mp member
    exact (proper statement listed).unconditional line inside
  have margin : (entry.definition.statements.flatMap Statement.lines).takeWhile
      (fun line => decide (0 < line.indent)) = [] := by
    cases entry.definition.statements with
    | nil => rfl
    | cons statement others =>
      obtain ⟨line, rest, lines, margin⟩ := statement.lines_margin
      rw [List.flatMap_cons, lines]
      simp [margin]
  refine (checkedLines_append front _).trans ?_
  unfold Layout.edgeLines
  split
  · next none =>
    have nothing := checkedLines_append behind []
    rw [List.append_nil] at nothing
    rw [none]
    exact nothing
  · rw [List.cons_append, checkedLines, if_pos rfl,
      List.takeWhile_append_of_pos (by simp [indentWidth]), margin, List.append_nil, List.map_map]
    rfl

/-- The contracts that a module declares can be read off its lines. -/
theorem contractClasses_eq (spelled : SyntaxNode.Spelled (.definition entry.definition))
    (readable : entry.Readable registry) (defines : entry.definition.DefinesType)
    {lead : List Text} (code : ∀ line ∈ lead, CodeLine line) :
    ∀ base ∈ Statement.contractBases,
      contractClasses base (entry.lines lead (dependencies registry entry)) =
        entry.definition.statements.filterMap (Statement.contract? base) := by
  have proper := Definition.statements_proper spelled readable.definition
  have literal := (lined_moduleDoc (Definition.typeName_spelled spelled defines)).1
  intro base known
  have doc := (SimpleStatement.docstring literal).contractClass?_eq base 0
  have future : contractClass? base ⟨0, futureImport⟩ = none := rfl
  have imports : contractClasses base (lead.map (LogicalLine.mk 0)) = [] := by
    refine List.filterMap_eq_nil_iff.mpr (List.forall_mem_map.mpr fun line member => ?_)
    exact (code line member).statement.contractClass?_eq base 0
  have edges : contractClasses base (Layout.edgeLines (dependencies registry entry)) = [] := by
    refine List.filterMap_eq_nil_iff.mpr ?_
    unfold Layout.edgeLines
    split
    · exact List.forall_mem_nil _
    · refine List.forall_mem_cons.mpr ⟨rfl, List.forall_mem_map.mpr fun dependency member => ?_⟩
      exact (codeLine_importOf readable dependency member).statement.contractClass?_eq base _
  have statements := Statement.contractClasses_lines proper base known
  rw [contractClasses] at imports edges statements ⊢
  rw [Entry.lines, List.filterMap_cons_none doc, List.filterMap_cons_none future,
    List.filterMap_append, List.filterMap_append, imports, edges, statements]
  rfl

end Generation

end SchemaForge

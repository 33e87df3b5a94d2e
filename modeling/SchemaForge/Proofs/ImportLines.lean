import SchemaForge.Proofs.BindingsListing
import SchemaForge.Proofs.PhysicalLines
import SchemaForge.Proofs.RenderedParts

/-!
# The lines of imports

A module has a line for each type that it imports, with the package of the type pasted into it.
A package is any string of a schema, so it may have line ends of its own, and then the line of
the import is more than one: all of its lines but the first and the last are lines of the package.
How many lines a module has beyond those that its definition asks for is therefore decided by the
line ends in the packages of the types that it imports.

The tables of the bindings module have the same packages in them, but quoted, so there they never
end a line.
-/

namespace SchemaForge

open CodePoint (lineFeed)

/-! ## Lines of imports -/

namespace Layout

variable {dependency : Dependency}

/-- What the line of an import has in front of the package. -/
def importLead : Text := "    from "

/-- What it has behind the package. -/
def importTail (dependency : Dependency) : Text :=
  Text.concat [".", dependency.moduleName, " import ", ModuleName.identifier dependency.typeName]

/-- The line of an import has the package between texts that no package has a part in. -/
theorem importLine_eq (dependency : Dependency) :
    importLine dependency = importLead ++ dependency.package ++ importTail dependency := by
  simp [importLine, importLead, importTail, Dependency.importPath, Text.concat]

/-- What is spelled like a name ends no line. -/
theorem unbroken_of_isNameRest {text : Text} (all : ∀ c ∈ text, c.isNameRest = true) :
    text.Unbroken := by
  intro c member
  constructor
  · rintro rfl
    exact absurd (all _ member) (by decide)
  · rintro rfl
    exact absurd (all _ member) (by decide)

/-- In front of the package no line ends. -/
theorem unbroken_importLead : importLead.Unbroken := by decide

/-- Neither does one behind it. -/
theorem unbroken_importTail (named : dependency.typeName.isName = true) :
    (importTail dependency).Unbroken := by
  have all : ∀ c ∈ dependency.typeName, c.isNameRest = true := by
    simp only [Text.isName, Bool.and_eq_true, List.all_eq_true] at named
    exact named.2
  have module : dependency.moduleName.Unbroken :=
    unbroken_of_isNameRest (ModuleName.ofType_all named)
  have identifier : (ModuleName.identifier dependency.typeName).Unbroken :=
    unbroken_of_isNameRest (ModuleName.identifier_all all)
  simp only [importTail, Text.concat, List.flatten_cons, List.flatten_nil, List.append_nil]
  exact .append (by decide) (module.append (.append (by decide) identifier))

/-- The lines of an import are those of its package. The first and the last have what stands
around the package; those in between are lines of the package, as they are. -/
theorem physicalLines_importLine (named : dependency.typeName.isName = true) :
    (importLine dependency).physicalLines =
      (dependency.package.physicalLines.modifyLast (· ++ importTail dependency)).modifyHead
        (importLead ++ ·) := by
  rw [importLine_eq]
  exact Text.physicalLines_around unbroken_importLead (unbroken_importTail named) dependency.package

/-- So there are as many line ends. -/
theorem lineEnds_importLine (named : dependency.typeName.isName = true) :
    (importLine dependency).lineEnds = dependency.package.lineEnds := by
  rw [importLine_eq, Text.lineEnds_append (unbroken_importTail named).apart_front,
    Text.lineEnds_append unbroken_importLead.apart, (unbroken_importTail named).lineEnds,
    unbroken_importLead.lineEnds]
  omega

/-- The line of an import does not end with a carriage return. -/
theorem importLine_unended (named : dependency.typeName.isName = true) :
    (importLine dependency).getLast? ≠ some .carriageReturn := by
  have some : importTail dependency ≠ [] := by
    simp [importTail, Text.concat, Text.ofString]
  rw [importLine_eq, List.getLast?_append_of_ne_nil _ some]
  intro last
  exact (unbroken_importTail named _ (List.mem_of_getLast? last)).2 rfl

/-- So do none of the lines of imports. -/
theorem importLines_unended {dependencies : List Dependency}
    (named : ∀ dependency ∈ dependencies, dependency.typeName.isName = true) :
    ∀ line ∈ dependencies.map importLine, line.getLast? ≠ some .carriageReturn := by
  rw [List.forall_mem_map]
  intro dependency member
  exact importLine_unended (named dependency member)

end Layout

/-! ## Blocks of imports -/

/-- The condition that the imports of a module stand under. -/
def Layout.importCondition : Text := "if TYPE_CHECKING:"

/-- How many lines end in the packages of some imports. -/
def packageLineEnds (dependencies : List Dependency) : Nat :=
  (dependencies.map (fun dependency => dependency.package.lineEnds)).sum

namespace Artifact

/-- The lines by which an artifact imports other modules. -/
def importLines (artifact : Artifact) : List Text :=
  artifact.dependencies.flatMap (fun dependency => (Layout.importLine dependency).physicalLines)

/-- The block of the imports of an artifact, line by line. -/
structure ImportsByLine (artifact : Artifact) : Prop where
  /-- Behind the condition come the lines of the imports, and then an empty line. -/
  block : artifact.dependencies ≠ [] → ∃ before after, artifact.text.physicalLines =
    before ++ Layout.importCondition :: artifact.importLines ++ [] :: after
  /-- An import has the lines of its package. Those that are neither the first nor the last are
  in the block as they are. -/
  lines : ∀ dependency ∈ artifact.dependencies,
    (Layout.importLine dependency).physicalLines =
      (dependency.package.physicalLines.modifyLast (· ++ Layout.importTail dependency)).modifyHead
        (Layout.importLead ++ ·)
  /-- There is one line for each import, and one for each line end in a package. -/
  count : artifact.importLines.length =
    artifact.dependencies.length + packageLineEnds artifact.dependencies
  /-- There is one line for each import exactly if no line ends in a package. -/
  exact : artifact.importLines.length = artifact.dependencies.length ↔
    ∀ dependency ∈ artifact.dependencies, dependency.package.Unbroken

end Artifact

/-- What begins with a line feed begins with an empty line. -/
theorem Text.physicalLines_cons_lineFeed (rest : Text) :
    physicalLines (lineFeed :: rest) = [] :: physicalLines rest := by
  have empty : Unbroken [] := by decide
  have unended : List.getLast? ([] : Text) ≠ some .carriageReturn := by decide
  have ended := physicalLines_lineFeed unended rest
  rwa [empty.physicalLines] at ended

/-- The edges end with a line feed each, and an empty line divides them from the definitions. -/
theorem Layout.imports_ended (lines : List Text) :
    ∃ lead, ∀ (dependencies : List Dependency) (more : Text), dependencies ≠ [] →
      imports lines dependencies ++ ([lineFeed, lineFeed, lineFeed] ++ more) =
        lead ++ [lineFeed] ++ lineFeed :: (importCondition ++ lineFeed ::
          ((dependencies.map importLine).flatMap (· ++ [lineFeed]) ++
            lineFeed :: lineFeed :: more)) := by
  obtain ⟨lead, edges⟩ := imports_lead lines
  refine ⟨lead, fun dependencies more given => ?_⟩
  have ended : Text.join [lineFeed] (dependencies.map importLine) ++ [lineFeed] =
      (dependencies.map importLine).flatMap (· ++ [lineFeed]) :=
    Text.join_lines (by simpa using given)
  have condition : ("\n\nif TYPE_CHECKING:\n" : Text) =
    [lineFeed] ++ lineFeed :: (importCondition ++ [lineFeed]) := rfl
  rw [edges dependencies given, condition, ← ended]
  simp [Text.concat]

namespace Render

variable {entry : Entry} {dependencies : List Dependency} {contracts : Contracts} {text : Text}

/-- What stands between the comment of a module and its imports. -/
def introduction (entry : Entry) : Text :=
  Text.concat ["\n\n", moduleDoc entry, "\n\nfrom __future__ import annotations\n\n"]

/-- A module with imports of types, cut where no line end is cut in two: behind the first line
feed that divides them from what is in front, and behind the condition. -/
theorem moduleText_ended (parts : Parts) :
    ∃ lead : Text, lead.getLast? = some lineFeed ∧
      ∀ (entry : Entry) (dependencies : List Dependency), dependencies ≠ [] →
        Text.concat [header entry, "\n\n", moduleDoc entry,
            "\n\nfrom __future__ import annotations\n\n",
            Layout.imports parts.imports dependencies, "\n\n\n", parts.body, "\n"] =
          header entry ++ introduction entry ++ lead ++ lineFeed ::
            (Layout.importCondition ++ lineFeed ::
              ((dependencies.map Layout.importLine).flatMap (· ++ [lineFeed]) ++
                lineFeed :: lineFeed :: (parts.body ++ [lineFeed]))) := by
  obtain ⟨lead, ended⟩ := Layout.imports_ended parts.imports
  refine ⟨lead ++ [lineFeed], List.getLast?_concat, fun entry dependencies given => ?_⟩
  have divider : ("\n\n\n" : Text) = [lineFeed, lineFeed, lineFeed] := rfl
  have feed : ("\n" : Text) = [lineFeed] := rfl
  have joined := ended dependencies (parts.body ++ [lineFeed]) given
  rw [List.append_assoc (header entry ++ introduction entry), ← joined, divider, feed]
  simp [introduction, Text.concat]

/-- What ends with a line feed does not end with half a line end. -/
theorem unended_of_lineFeed {lead : Text} (last : lead.getLast? = some lineFeed) (front : Text) :
    (front ++ lead).getLast? ≠ some .carriageReturn := by
  have given : lead ≠ [] := by
    rintro rfl
    cases last
  rw [List.getLast?_append_of_ne_nil _ given, last]
  decide

/-- The lines of the imports of a module stand between the condition and an empty line. -/
theorem moduleText_importLines
    (rendered : moduleText indentWidth entry dependencies contracts = .ok text)
    (named : ∀ dependency ∈ dependencies, dependency.typeName.isName = true)
    (given : dependencies ≠ []) :
    ∃ before after, text.physicalLines =
      before ++ Layout.importCondition ::
        dependencies.flatMap (fun dependency => (Layout.importLine dependency).physicalLines) ++
        [] :: after := by
  obtain ⟨parts, -, rfl⟩ := moduleText_layout rendered
  obtain ⟨lead, last, ended⟩ := moduleText_ended parts
  have condition : Layout.importCondition.Unbroken := by decide
  rw [ended entry dependencies given, Text.physicalLines_lineFeed (unended_of_lineFeed last _),
    Text.physicalLines_lineFeed (by decide),
    Text.physicalLines_ended (Layout.importLines_unended named), Text.physicalLines_cons_lineFeed,
    condition.physicalLines, List.flatMap_map]
  refine ⟨(header entry ++ introduction entry ++ lead).physicalLines,
    Text.physicalLines (lineFeed :: (parts.body ++ [lineFeed])), ?_⟩
  simp

end Render

/-! ## Counting lines -/

/-- A decimal digit ends no line. -/
theorem CodePoint.ofChar_digit {digit : Char} (isDigit : digit.isDigit = true) :
    ofChar digit ≠ lineFeed ∧ ofChar digit ≠ .carriageReturn := by
  have number : 48 ≤ (ofChar digit).val := by
    simp only [Char.isDigit, Bool.and_eq_true, decide_eq_true_eq, ge_iff_le,
      UInt32.le_iff_toNat_le] at isDigit
    exact isDigit.1
  constructor
  · intro feed
    rw [feed] at number
    exact absurd number (by decide)
  · intro carriage
    rw [carriage] at number
    exact absurd number (by decide)

/-- A number is on one line. -/
theorem Text.unbroken_ofInt (number : Int) : (ofInt number).Unbroken := by
  have digits (number : Nat) : (ofNat number).Unbroken := by
    unfold Unbroken ofNat
    rw [List.forall_mem_map]
    intro digit inside
    exact CodePoint.ofChar_digit (Nat.isDigit_of_mem_toDigits (by decide) (by decide) inside)
  cases number with
  | ofNat number => exact digits number
  | negSucc number =>
    have sign : Text.Unbroken [CodePoint.ofChar '-'] := by decide
    exact sign.append (digits (number + 1))

/-- A location has the line ends of its source. -/
theorem lineEnds_renderLocation (source : Text) (line column : Int) :
    (renderLocation (some source) line column).lineEnds = source.lineEnds := by
  have place : (Text.concat [":[", Text.ofInt line, ", ", Text.ofInt column, "]"]).Unbroken := by
    simp only [Text.concat, List.flatten_cons, List.flatten_nil, List.append_nil]
    exact .append (by decide) (.append (Text.unbroken_ofInt line)
      (.append (by decide) (.append (Text.unbroken_ofInt column) (by decide))))
  have ends (name : Text) :
      (name ++ Text.concat [":[", Text.ofInt line, ", ", Text.ofInt column, "]"]).lineEnds =
        name.lineEnds := by
    rw [Text.lineEnds_append place.apart_front, place.lineEnds]
    rfl
  cases source with
  | nil =>
    have unknown : Text.lineEnds "<unknown>" = Text.lineEnds [] := by
      rw [Text.Unbroken.lineEnds (by decide), Text.Unbroken.lineEnds (by decide)]
    exact (ends "<unknown>").trans unknown
  | cons c rest => exact ends (c :: rest)

namespace Render

/-- The comment of a module has the line ends of the source. -/
theorem lineEnds_header (entry : Entry) : (header entry).lineEnds = entry.source.lineEnds := by
  have front : Text.Unbroken "# Generated by apigen from " := by decide
  have back : Text.Unbroken ". Do not edit." := by decide
  simp only [header, Text.concat, List.flatten_cons, List.flatten_nil, List.append_nil]
  rw [Text.lineEnds_append front.apart, Text.lineEnds_append back.apart_front, front.lineEnds,
    back.lineEnds, Entry.location, lineEnds_renderLocation]
  omega

/-- It does not end with half a line end, so what comes behind it is counted apart. -/
theorem header_apart (entry : Entry) (rest : Text) : Text.Apart (header entry) rest := by
  have back : Text.Unbroken ". Do not edit." := by decide
  have whole : header entry =
      (("# Generated by apigen from " : Text) ++ entry.location) ++ (". Do not edit." : Text) := by
    simp [header, Text.concat]
  intro last
  rw [whole, List.getLast?_append_of_ne_nil _ (by decide)] at last
  exact absurd rfl (back _ (List.mem_of_getLast? last)).2

/-- The line ends of the imports of a module: one for each, and those in the packages. -/
theorem sum_lineEnds_importLine
    (named : ∀ dependency ∈ dependencies, dependency.typeName.isName = true) :
    ((dependencies.map Layout.importLine).map (fun line => line.lineEnds + 1)).sum =
      dependencies.length + packageLineEnds dependencies := by
  induction dependencies with
  | nil => rfl
  | cons dependency dependencies inductionHypothesis =>
    rw [List.forall_mem_cons] at named
    have rest := inductionHypothesis named.2
    simp only [packageLineEnds, List.map_cons, List.sum_cons, List.length_cons,
      Layout.lineEnds_importLine named.1] at rest ⊢
    omega

/-- The line ends of a module that imports types. What decides them, but for the imports, is the
source of the entry, its docstring, and its parts. -/
theorem lineEnds_ended {lead body : Text} (last : lead.getLast? = some lineFeed) (entry : Entry)
    (named : ∀ dependency ∈ dependencies, dependency.typeName.isName = true) :
    Text.lineEnds (header entry ++ introduction entry ++ lead ++ lineFeed ::
        (Layout.importCondition ++ lineFeed ::
          ((dependencies.map Layout.importLine).flatMap (· ++ [lineFeed]) ++ body))) =
      entry.source.lineEnds + (introduction entry ++ lead).lineEnds + 2 +
        (dependencies.length + packageLineEnds dependencies) + body.lineEnds := by
  have condition : Layout.importCondition.Unbroken := by decide
  rw [Text.lineEnds_lineFeed (unended_of_lineFeed last _), Text.lineEnds_lineFeed (by decide),
    Text.lineEnds_ended (Layout.importLines_unended named), sum_lineEnds_importLine named,
    List.append_assoc, Text.lineEnds_append (header_apart entry _), lineEnds_header,
    condition.lineEnds]
  omega

variable {left right : Entry} {others : List Dependency} {other : Text}

/-- How many lines two modules have, of entries that differ in what decides their packages alone
and that import the same types: the same number, but for the line ends in the packages that are
imported from. -/
theorem moduleText_lineEnds (same : left.unpackaged = right.unpackaged)
    (names : dependencies.map Dependency.typeName = others.map Dependency.typeName)
    (named : ∀ dependency ∈ dependencies, dependency.typeName.isName = true)
    (rendered : moduleText indentWidth left dependencies contracts = .ok text)
    (renderedOther : moduleText indentWidth right others contracts = .ok other) :
    text.lineEnds + packageLineEnds others = other.lineEnds + packageLineEnds dependencies := by
  obtain ⟨parts, found, rfl⟩ := moduleText_layout rendered
  obtain ⟨partsOther, foundOther, rfl⟩ := moduleText_layout renderedOther
  have sources : left.source = right.source := by
    have given := congrArg Entry.source same
    exact given
  have docs : moduleDoc left = moduleDoc right := by
    rw [← left.moduleDoc_unpackaged, same, right.moduleDoc_unpackaged]
  have introductions : introduction left = introduction right := by
    rw [introduction, docs, introduction]
  obtain rfl : parts = partsOther := by
    rw [← left.parts_unpackaged, same, right.parts_unpackaged, foundOther] at found
    exact (Except.ok.inj found).symm
  by_cases none : dependencies = []
  · obtain rfl := none
    obtain rfl : others = [] := List.map_eq_nil_iff.mp names.symm
    simp only [Text.concat, List.flatten_cons]
    rw [Text.lineEnds_append (header_apart left _), Text.lineEnds_append (header_apart right _),
      lineEnds_header, lineEnds_header, sources, docs]
  · have noneOther : others ≠ [] := by
      rintro rfl
      exact none (List.map_eq_nil_iff.mp names)
    have namedOther : ∀ dependency ∈ others, dependency.typeName.isName = true := by
      rw [← List.forall_mem_map (f := Dependency.typeName) (P := fun name => name.isName = true),
        ← names, List.forall_mem_map]
      exact named
    have lengths := congrArg List.length names
    rw [List.length_map, List.length_map] at lengths
    obtain ⟨lead, last, ended⟩ := moduleText_ended parts
    rw [ended left dependencies none, ended right others noneOther, lineEnds_ended last left named,
      lineEnds_ended last right namedOther, sources, introductions, lengths]
    omega

end Render

/-! ## Artifacts -/

/-- No line ends in packages exactly if none ends in any of them. -/
theorem packageLineEnds_eq_zero_iff {dependencies : List Dependency} :
    packageLineEnds dependencies = 0 ↔
      ∀ dependency ∈ dependencies, dependency.package.Unbroken := by
  unfold packageLineEnds
  rw [List.sum_eq_zero_iff_forall_eq_nat, List.forall_mem_map]
  simp only [Text.lineEnds_eq_zero_iff]

namespace Generation

variable {registry : Registry} {entry : Entry} {text : Text}

/-- The module of an entry has the lines of its imports in their block. -/
theorem importsByLine_of_text (rendered : textOf registry entry = .ok text)
    (named : ∀ dependency ∈ dependencies registry entry, dependency.typeName.isName = true) :
    (artifactFor registry entry text).ImportsByLine := by
  have count : (artifactFor registry entry text).importLines.length =
      (dependencies registry entry).length + packageLineEnds (dependencies registry entry) := by
    rw [← Render.sum_lineEnds_importLine named, Artifact.importLines, List.length_flatMap,
      List.map_map]
    simp only [Text.length_physicalLines]
    rfl
  constructor
  · exact Render.moduleText_importLines rendered named
  · intro dependency member
    exact Layout.physicalLines_importLine (named dependency member)
  · exact count
  · rw [count]
    change _ ↔ ∀ dependency ∈ dependencies registry entry, dependency.package.Unbroken
    rw [← packageLineEnds_eq_zero_iff]
    change _ = (dependencies registry entry).length ↔ _
    omega

end Generation

/-! ## The bindings module -/

/-- A text on one line ends no line of the generated language. -/
theorem Text.OnOneLine.unbroken {text : Text} (line : text.OnOneLine) : text.Unbroken := by
  intro c member
  have plain := line c member
  constructor
  · rintro rfl
    exact absurd plain (by decide)
  · rintro rfl
    exact absurd plain (by decide)

/-- A class is listed on one line, whatever its module is called. -/
theorem ListedClass.unbroken_line (module : Text) (listed : ListedClass) :
    (listed.line module).Unbroken := by
  have key := (Text.quoted_onOneLine listed.key).unbroken
  have path := (Text.quoted_onOneLine (Text.concat [module, ".", listed.name])).unbroken
  simp only [line, Text.concat, List.flatten_cons, List.flatten_nil, List.append_nil] at path ⊢
  exact .append (by decide) (key.append (.append (by decide) (path.append (by decide))))

/-- How many classes the tables list for an artifact. -/
def Artifact.listedCount (artifact : Artifact) : Nat :=
  artifact.batchClasses.length + artifact.fieldClasses.length

/-- An artifact without contracts is not listed. -/
theorem Artifact.listedCount_of_not_any {artifact : Artifact}
    (plain : artifact.contracts.any = false) : artifact.listedCount = 0 := by
  unfold Contracts.any at plain
  rw [Bool.or_eq_false_iff] at plain
  simp [listedCount, batchClasses, fieldClasses, plain]

/-- A table has a line for each class, and one in front of them and one behind. -/
theorem lineEnds_tableText {name : Text} (unbroken : name.Unbroken) {lines : List Text}
    (each : ∀ line ∈ lines, line.Unbroken) (rest : Text) :
    (tableText name lines ++ rest).lineEnds = lines.length + 2 + rest.lineEnds := by
  have closed : Text.Unbroken "\x7d" := by decide
  have opened : Text.Unbroken (name ++ ": dict[str, str] = \x7b") := unbroken.append (by decide)
  have unended (line : Text) (unbroken : line.Unbroken) :
      line.getLast? ≠ some .carriageReturn := by
    intro last
    exact (unbroken _ (List.mem_of_getLast? last)).2 rfl
  have ends : (lines.map (fun line => line.lineEnds + 1)).sum = lines.length := by
    rw [List.map_congr_left (fun line member => by rw [(each line member).lineEnds])]
    simp
  have opening : (": dict[str, str] = \x7b\n" : Text) =
    (": dict[str, str] = \x7b" : Text) ++ [lineFeed] := rfl
  have closing : ("\x7d\n" : Text) = ("\x7d" : Text) ++ [lineFeed] := rfl
  have whole : tableText name lines ++ rest =
      (name ++ (": dict[str, str] = \x7b" : Text)) ++ lineFeed ::
        (lines.flatMap (· ++ [lineFeed]) ++ (("\x7d" : Text) ++ lineFeed :: rest)) := by
    simp [tableText, Text.concat, opening, closing]
  rw [whole, Text.lineEnds_lineFeed (unended _ opened),
    Text.lineEnds_ended (fun line member => unended line (each line member)),
    Text.lineEnds_lineFeed (unended _ closed), opened.lineEnds, closed.lineEnds, ends]
  omega

/-- The lines of a table are unbroken, one for each class of its artifacts. -/
theorem unbroken_listingLines (classes : Artifact → List ListedClass) (artifacts : List Artifact) :
    ∀ line ∈ listingLines classes artifacts, line.Unbroken := by
  intro line member
  obtain ⟨artifact, -, inside⟩ := List.mem_flatMap.mp member
  obtain ⟨listed, -, rfl⟩ := List.mem_map.mp inside
  exact ListedClass.unbroken_line _ listed

/-- A docstring ends with quotes. -/
theorem Layout.docstring_unended (text : Text) :
    (docstring text).getLast? ≠ some .carriageReturn := by
  have last : (docstring text).getLast? = some .quote := by
    unfold docstring
    dsimp only
    split <;> simp [Text.concat, List.getLast?_cons, List.getLast?_append]
  rw [last]
  decide

/-- The docstring of the bindings module. -/
def bindingsDoc (module : Text) : Text :=
  Layout.docstring (Text.concat ["Resolver contracts to bind in ``", module, "``."])

/-- The bindings module has a line for each class that it lists, besides those that it always
has and those of its docstring. -/
theorem lineEnds_listingText (module : Text) (ordered : List Artifact) :
    (listingText module ordered).lineEnds =
      (bindingsDoc module).lineEnds + 11 + (ordered.map Artifact.listedCount).sum := by
  have comment : Text.Unbroken "# Generated by apigen. Do not edit." := by decide
  have doc : (bindingsDoc module).getLast? ≠ some .carriageReturn := Layout.docstring_unended _
  have future : Text.Unbroken "from __future__ import annotations" := by decide
  have counts : (listingLines Artifact.batchClasses ordered).length +
      (listingLines Artifact.fieldClasses ordered).length =
        (ordered.map Artifact.listedCount).sum := by
    unfold listingLines Artifact.listedCount
    simp only [List.length_flatMap, List.length_map]
    induction ordered with
    | nil => rfl
    | cons artifact ordered inductionHypothesis =>
      simp only [List.map_cons, List.sum_cons] at inductionHypothesis ⊢
      omega
  have divider : ("\n\n" : Text) = [lineFeed, lineFeed] := rfl
  have feed : ("\n" : Text) = [lineFeed] := rfl
  have whole : listingText module ordered =
      ("# Generated by apigen. Do not edit." : Text) ++ lineFeed :: lineFeed ::
        (bindingsDoc module ++ lineFeed :: lineFeed ::
          (("from __future__ import annotations" : Text) ++ lineFeed :: lineFeed ::
            (tableText "RESOLVERS" (listingLines Artifact.batchClasses ordered) ++ lineFeed ::
              (tableText "FIELD_RESOLVERS" (listingLines Artifact.fieldClasses ordered) ++
                [])))) := by
    rw [listingText, divider, feed, bindingsDoc]
    simp [Text.concat]
  rw [whole, Text.lineEnds_lineFeed (by decide), Text.lineEnds_cons_lineFeed,
    Text.lineEnds_lineFeed doc, Text.lineEnds_cons_lineFeed,
    Text.lineEnds_lineFeed (by decide), Text.lineEnds_cons_lineFeed,
    lineEnds_tableText (by decide) (unbroken_listingLines _ _), Text.lineEnds_cons_lineFeed,
    lineEnds_tableText (by decide) (unbroken_listingLines _ _), comment.lineEnds,
    future.lineEnds, Text.Unbroken.lineEnds (by decide : Text.Unbroken []), ← counts]
  omega

/-- Listed artifacts in any order are as many lines, and those without contracts are none. -/
theorem sum_listedCount {artifacts ordered : List Artifact}
    (listed : ordered.Perm (artifacts.filter (fun artifact => artifact.contracts.any))) :
    (ordered.map Artifact.listedCount).sum = (artifacts.map Artifact.listedCount).sum := by
  rw [(listed.map Artifact.listedCount).sum_nat]
  clear listed
  induction artifacts with
  | nil => rfl
  | cons artifact artifacts inductionHypothesis =>
    rw [List.map_cons, List.sum_cons, ← inductionHypothesis]
    cases declares : artifact.contracts.any with
    | true => simp [declares]
    | false => simp [declares, Artifact.listedCount_of_not_any declares]

end SchemaForge

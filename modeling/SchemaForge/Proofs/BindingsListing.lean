import SchemaForge.Proofs.ImportGraph

/-!
# What the bindings module lists

The bindings module is written at the end of a run, from what the artifacts say about themselves.
Its tables have a line for every class that an artifact with a contract lists, and none besides.

A line of a table is one line because keys and paths are quoted, and nothing in a quoted text
ends a line. Everything else follows the artifacts: whatever keeps a type from having one,
keeps it out of the tables.
-/

namespace SchemaForge

/-! ## Lines -/

namespace CodePoint

/-- What is printable ends no line. -/
theorem not_isLineEnd_of_isPrintable {c : CodePoint} (printable : c.isPrintable = true) :
    c.isLineEnd = false := by
  have listed : ∀ number ∈ [0x85, 0x2028, 0x2029],
      unprintableRanges.any (fun range => range.1 ≤ number && number ≤ range.2) = true := by
    decide +kernel
  rw [Bool.eq_false_iff]
  intro ended
  simp only [isLineEnd, Bool.or_eq_true, Bool.and_eq_true, decide_eq_true_eq] at ended
  unfold isPrintable at printable
  split at printable
  · have visible : 0x20 ≤ c.val := of_decide_eq_true printable
    omega
  · have separator : c.val ∈ [0x85, 0x2028, 0x2029] := by
      simp only [List.mem_cons, List.not_mem_nil, or_false]
      omega
    rw [inRanges, listed c.val separator] at printable
    cases printable

/-- What is so of every single hexadecimal digit is so of all digits of a number. -/
theorem forall_mem_toDigits {holds : CodePoint → Prop}
    (single : ∀ value < 16, holds (ofChar (Nat.digitChar value))) (number : Nat) :
    ∀ digit ∈ Nat.toDigits 16 number, holds (ofChar digit) := by
  induction number using Nat.strongRecOn with
  | ind number inductionHypothesis =>
    by_cases small : number < 16
    · rw [Nat.toDigits_of_lt_base small]
      intro digit member
      rw [List.mem_singleton.mp member]
      exact single number small
    · have last : number % 16 < 16 := Nat.mod_lt number (by decide)
      have split : Nat.toDigits 16 (number / 16) ++ Nat.toDigits 16 (number % 16) =
          Nat.toDigits 16 number := by
        rw [Nat.toDigits_append_toDigits (by decide) (by omega) last, Nat.div_add_mod]
      rw [← split, List.forall_mem_append]
      exact ⟨inductionHypothesis _ (by omega), inductionHypothesis _ (by omega)⟩

/-- It is so of a padded number too. -/
theorem forall_mem_padded {holds : CodePoint → Prop}
    (single : ∀ value < 16, holds (ofChar (Nat.digitChar value))) (width number : Nat) :
    ∀ digit ∈ Text.padded 16 width number, holds digit := by
  unfold Text.padded
  rw [List.forall_mem_append, List.forall_mem_map]
  refine ⟨?_, forall_mem_toDigits single number⟩
  intro digit member
  rw [List.eq_of_mem_replicate member]
  exact single 0 (by decide)

end CodePoint

namespace Text

/-- A text that ends no line. -/
def OnOneLine (text : Text) : Prop := ∀ c ∈ text, c.isLineEnd = false

instance (text : Text) : Decidable text.OnOneLine := by
  unfold OnOneLine
  infer_instance

/-- Padded hexadecimal digits end no line. -/
theorem padded_onOneLine (width number : Nat) : (padded 16 width number).OnOneLine :=
  CodePoint.forall_mem_padded (by decide) width number

/-- Texts that end no line end none together. -/
theorem OnOneLine.append {text more : Text} (front : text.OnOneLine) (back : more.OnOneLine) :
    (text ++ more).OnOneLine := List.forall_mem_append.mpr ⟨front, back⟩

/-- A code point by its number ends no line. -/
theorem numberEscape_onOneLine (c : CodePoint) : (numberEscape c).OnOneLine := by
  unfold numberEscape
  split
  · exact .append (by decide) (padded_onOneLine 2 c.val)
  · split
    · exact .append (by decide) (padded_onOneLine 4 c.val)
    · exact .append (by decide) (padded_onOneLine 8 c.val)

/-- A code point between quotes ends no line, because what does is escaped. -/
theorem quotedUnit_onOneLine {mark c : CodePoint} (plain : mark.isLineEnd = false) :
    (quotedUnit mark c).OnOneLine := by
  unfold quotedUnit
  split
  · next doubled =>
    have plainUnit : c.isLineEnd = false := by
      obtain rfl | rfl : c = mark ∨ c = .backslash := by simpa using doubled
      · exact plain
      · decide
    exact List.forall_mem_cons.mpr ⟨by decide, List.forall_mem_singleton.mpr plainUnit⟩
  · split
    · decide
    · split
      · decide
      · split
        · decide
        · split
          · next printable =>
            exact List.forall_mem_singleton.mpr (CodePoint.not_isLineEnd_of_isPrintable printable)
          · exact numberEscape_onOneLine c

/-- A quoted text is on one line. -/
theorem quoted_onOneLine (text : Text) : (quoted text).OnOneLine := by
  have plain : (quoteMark text).isLineEnd = false := by
    unfold quoteMark
    split <;> decide
  refine List.forall_mem_append.mpr ⟨List.forall_mem_cons.mpr ⟨plain, ?_⟩,
    List.forall_mem_singleton.mpr plain⟩
  intro c member
  obtain ⟨unit, -, found⟩ := List.mem_flatMap.mp member
  exact quotedUnit_onOneLine plain c found

/-- The rest of a line that is not ended. -/
theorem linesFrom_eq {current text : Text} (line : text.OnOneLine) (some : current ++ text ≠ []) :
    linesFrom current text = [current.reverse ++ text] := by
  induction text generalizing current with
  | nil =>
    have given : current.isEmpty = false := by simpa using some
    simp [linesFrom, given]
  | cons c text inductionHypothesis =>
    obtain ⟨plain, rest⟩ := List.forall_mem_cons.mp line
    have other : c ≠ .carriageReturn := by
      rintro rfl
      exact absurd plain (by decide)
    rw [linesFrom.eq_def]
    simp only [other, plain, Bool.false_eq_true, ↓reduceIte]
    rw [inductionHypothesis rest (by simp)]
    simp

end Text

/-- An entry of a table stays on one line when it is indented. -/
theorem Layout.indent_entry (width : Nat) (key path : Text) :
    indent width (Text.concat [Text.quoted key, ": ", Text.quoted path, ","]) =
      Text.blanks width ++ Text.concat [Text.quoted key, ": ", Text.quoted path, ","] := by
  have line : Text.OnOneLine (Text.concat [Text.quoted key, ": ", Text.quoted path, ","]) :=
    (Text.quoted_onOneLine key).append <| .append (by decide) <|
      (Text.quoted_onOneLine path).append (by decide)
  generalize whole : Text.concat [Text.quoted key, ": ", Text.quoted path, ","] = entry at line ⊢
  have comma : CodePoint.ofChar ',' ∈ entry := by
    rw [← whole]
    simp [Text.concat, Text.ofString]
  have visible : Text.isBlank entry = false := by
    rw [Text.isBlank, List.all_eq_false]
    exact ⟨_, comma, by decide⟩
  have some : [] ++ entry ≠ [] := List.ne_nil_of_mem comma
  rw [indent, Text.splitLines, Text.linesFrom_eq line some]
  simp [visible, Text.join]

/-! ## Tables -/

/-- A class that a table lists, with the key of its entry. -/
structure ListedClass where
  /-- The key. -/
  key : Text
  /-- The name of the class. -/
  name : Text

/-- The line of a table that lists a class of a module. -/
def ListedClass.line (module : Text) (listed : ListedClass) : Text :=
  Text.concat ["    ", Text.quoted listed.key, ": ",
    Text.quoted (Text.concat [module, ".", listed.name]), ","]

namespace Artifact

/-- The class to list for a type that is looked up in batches. -/
def batchClasses (artifact : Artifact) : List ListedClass :=
  if artifact.contracts.batchLookup then
    [⟨artifact.typeName, ModuleName.batchResolver artifact.typeName⟩]
  else []

/-- The classes to list for a type with computed fields, one for each in their order. -/
def fieldClasses (artifact : Artifact) : List ListedClass :=
  if artifact.contracts.fieldResolution then
    artifact.computedFields.map (fun field =>
      ⟨Text.concat [artifact.typeName, ".", field],
        ModuleName.fieldResolver artifact.typeName field⟩)
  else []

end Artifact

/-- The lines that list classes of some artifacts, one artifact behind the other. -/
def listingLines (classes : Artifact → List ListedClass) (artifacts : List Artifact) : List Text :=
  artifacts.flatMap (fun artifact =>
    (classes artifact).map (ListedClass.line artifact.qualifiedName))

/-- The text of a table with the given lines. -/
def tableText (name : Text) (lines : List Text) : Text :=
  Text.concat [name, ": dict[str, str] = \x7b\n", lines.flatMap (· ++ [.lineFeed]), "\x7d\n"]

/-- The text of a bindings module that lists the classes of artifacts in the given order. -/
def listingText (module : Text) (ordered : List Artifact) : Text :=
  Text.concat ["# Generated by apigen. Do not edit.", "\n\n",
    Layout.docstring (Text.concat ["Resolver contracts to bind in ``", module, "``."]), "\n\n",
    "from __future__ import annotations", "\n\n",
    tableText "RESOLVERS" (listingLines Artifact.batchClasses ordered), "\n",
    tableText "FIELD_RESOLVERS" (listingLines Artifact.fieldClasses ordered)]

/-- Joined lines with one more line feed are lines with a line feed each. -/
theorem Text.join_lines {lines : List Text} (some : lines ≠ []) :
    join [.lineFeed] lines ++ [.lineFeed] = lines.flatMap (· ++ [.lineFeed]) := by
  induction lines with
  | nil => exact absurd rfl some
  | cons line lines inductionHypothesis =>
    cases lines with
    | nil => simp [join]
    | cons next lines =>
      rw [join_cons _ _ (List.cons_ne_nil next lines), List.append_assoc,
        inductionHypothesis (List.cons_ne_nil next lines)]
      rfl

namespace Bindings

/-- The batch contract of an artifact is a line of its own. -/
theorem batchLines_indented (artifact : Artifact) :
    (batchLines artifact).map (Layout.indent indentWidth) =
      artifact.batchClasses.map (ListedClass.line artifact.qualifiedName) := by
  unfold batchLines Artifact.batchClasses
  split
  · exact congrArg (fun line => [line]) (Layout.indent_entry _ _ _)
  · rfl

/-- The field contracts of an artifact are lines of their own. -/
theorem fieldLines_indented (artifact : Artifact) :
    (fieldLines artifact).map (Layout.indent indentWidth) =
      artifact.fieldClasses.map (ListedClass.line artifact.qualifiedName) := by
  unfold fieldLines Artifact.fieldClasses
  split
  · rw [List.map_map, List.map_map]
    refine List.map_congr_left ?_
    intro field _
    exact Layout.indent_entry _ _ _
  · rfl

/-- The artifacts in the order of the tables. -/
def ordered (artifacts : List Artifact) : List Artifact :=
  artifacts.mergeSort (fun left right => Text.le left.typeName right.typeName)

/-- A table is its lines with a line feed each. -/
theorem table_lines (name : Text) (lines : List Text) :
    (table indentWidth name lines).flatMap (· ++ [.lineFeed]) =
      tableText name (lines.map (Layout.indent indentWidth)) := by
  simp [table, tableText, Text.concat, Text.ofString]
  rfl

/-- The bindings module lists the classes of its artifacts. -/
theorem moduleText_eq (module : Text) (artifacts : List Artifact) :
    moduleText indentWidth module artifacts = listingText module (ordered artifacts) := by
  have batch : ((ordered artifacts).flatMap batchLines).map (Layout.indent indentWidth) =
      listingLines Artifact.batchClasses (ordered artifacts) := by
    simp only [List.map_flatMap, batchLines_indented]
    rfl
  have fields : ((ordered artifacts).flatMap fieldLines).map (Layout.indent indentWidth) =
      listingLines Artifact.fieldClasses (ordered artifacts) := by
    simp only [List.map_flatMap, fieldLines_indented]
    rfl
  unfold moduleText
  rw [← ordered, Text.join_lines (by simp), List.flatMap_append, List.flatMap_append,
    List.flatMap_append, table_lines, table_lines, batch, fields, listingText]
  generalize tableText "RESOLVERS" _ = batchTable
  generalize tableText "FIELD_RESOLVERS" _ = fieldTable
  generalize Layout.docstring _ = doc
  have divider : ("\n\n" : Text) = [.lineFeed, .lineFeed] := rfl
  have feed : ("\n" : Text) = [.lineFeed] := rfl
  rw [divider, feed]
  simp [Text.concat]

/-- The order of the tables loses no artifact and adds none. -/
theorem ordered_perm (artifacts : List Artifact) : (ordered artifacts).Perm artifacts :=
  List.mergeSort_perm _ _

/-- The tables are ordered by the names of the types. -/
theorem ordered_sorted (artifacts : List Artifact) :
    (ordered artifacts).Pairwise
      (fun earlier later => ¬ Text.Before later.typeName earlier.typeName) := by
  have transitive (first second third : Artifact)
      (left : Text.le first.typeName second.typeName = true)
      (right : Text.le second.typeName third.typeName = true) :
      Text.le first.typeName third.typeName = true := Text.le_trans left right
  have total (left right : Artifact) :
      (Text.le left.typeName right.typeName || Text.le right.typeName left.typeName) = true :=
    Text.le_total left.typeName right.typeName
  exact (List.pairwise_mergeSort transitive total artifacts).imp (Text.le_iff _ _).mp

/-- Where the names are distinct, each comes strictly before the next. -/
theorem ordered_increasing {artifacts : List Artifact}
    (distinct : (artifacts.map Artifact.typeName).Nodup) :
    (ordered artifacts).Pairwise
      (fun earlier later => Text.Before earlier.typeName later.typeName) := by
  have apart := ((ordered_perm artifacts).map Artifact.typeName).nodup_iff.mpr distinct
  refine ((ordered_sorted artifacts).and (List.pairwise_map.mp apart)).imp ?_
  rintro earlier later ⟨sorted, different⟩
  obtain before | same | after := Text.Before.trichotomy earlier.typeName later.typeName
  · exact before
  · exact absurd same different
  · exact absurd after sorted

end Bindings

/-! ## Classes -/

namespace Render

/-- The import that classes of contracts need, if there are any. -/
def classImports (classes : List Text) : List Text :=
  if classes.isEmpty then [] else [runtimeImport]

/-- The module of an object type is what it is without contracts, and then the classes. Those
of fields are asked for exactly if there are computed fields. -/
theorem objectParts_eq (type : FieldedType) (identity : Bool) :
    let batch := if identity = true then [batchResolver indentWidth type.name] else []
    let fields := (type.fields.filter Field.isComputed).map (fieldResolver indentWidth type.name)
    let plain := objectParts indentWidth type Contracts.none
    objectParts indentWidth type ⟨identity, !(type.fields.filter Field.isComputed).isEmpty⟩ =
      ⟨plain.imports ++ classImports (batch ++ fields),
        Text.join "\n\n\n" (plain.body :: (batch ++ fields))⟩ := by
  have divider : ("\n\n\n" : Text) = [.lineFeed, .lineFeed, .lineFeed] := rfl
  unfold objectParts
  rw [divider]
  generalize type.fields.filter Field.isComputed = computed
  cases identity <;> cases computed <;> rfl

end Render

open Generation

namespace Generation

variable {registry : Registry} {entry : Entry}

/-- A class is listed for every computed field of an entry. -/
theorem fieldClasses_names (registry : Registry) (entry : Entry) (text : Text) :
    (artifactFor registry entry text).fieldClasses.map ListedClass.name =
      entry.definition.computedFields.map
        (fun field => ModuleName.fieldResolver entry.name field.name) := by
  change List.map _ (if (!entry.definition.computedFields.isEmpty) = true then
    (entry.definition.computedFields.map Field.name).map _ else []) = _
  cases entry.definition.computedFields with
  | nil => rfl
  | cons field fields => simp [artifactFor]

/-! ## Runs -/

variable {σ : Type} {sink : Option (Sink σ)} {before after : σ}

/-- What is listed for an entry is the artifact with its text, and the entry has come as far
as its module. -/
theorem EntryOutcome.emitted {earlier : List Entry} {outcome : GenerationResult}
    (settled : EntryOutcome registry sink earlier entry before outcome after) :
    ∀ artifact ∈ outcome.artifacts, Reaches registry entry ∧ ∃ text,
      textOf registry entry = .ok text ∧ artifact = artifactFor registry entry text := by
  intro artifact member
  cases settled with
  | unresolved | unrenderable => cases member
  | emission reaches rendered emitted =>
    exact ⟨reaches, _, rendered, (emitted.free_of_mem member).1⟩

/-- What is listed in a run are artifacts of entries that have come as far as their modules. -/
theorem GenerationRun.emitted {earlier entries : List Entry} {outcomes : List GenerationResult}
    (run : GenerationRun registry sink earlier entries before outcomes after) :
    ∀ artifact ∈ (resultOf outcomes).artifacts, ∃ entry ∈ entries, Reaches registry entry ∧
      ∃ text, textOf registry entry = .ok text ∧ artifact = artifactFor registry entry text := by
  induction run with
  | done => simp [resultOf]
  | @next _ entries entry _ _ _ outcome outcomes first rest inductionHypothesis =>
    intro artifact member
    obtain member | member := List.mem_append.mp member
    · exact ⟨entry, List.mem_cons_self, first.emitted artifact member⟩
    · obtain ⟨other, listed, found⟩ := inductionHypothesis artifact member
      exact ⟨other, List.mem_cons_of_mem entry listed, found⟩

/-- What is listed in a run are artifacts of its entries with their texts. -/
theorem GenerationRun.rendered {earlier entries : List Entry} {outcomes : List GenerationResult}
    (run : GenerationRun registry sink earlier entries before outcomes after) :
    ∀ artifact ∈ (resultOf outcomes).artifacts, ∃ entry ∈ entries, ∃ text,
      textOf registry entry = .ok text ∧ artifact = artifactFor registry entry text := by
  intro artifact member
  obtain ⟨entry, listed, -, text, rendered⟩ := run.emitted artifact member
  exact ⟨entry, listed, text, rendered⟩

/-- An entry has at most one artifact, and it has the name of the entry. -/
theorem EntryOutcome.names_sublist {earlier : List Entry} {outcome : GenerationResult}
    (settled : EntryOutcome registry sink earlier entry before outcome after) :
    (outcome.artifacts.map Artifact.typeName).Sublist [entry.name] := by
  cases settled with
  | unresolved | unrenderable => exact List.nil_sublist _
  | emission reaches rendered emitted =>
    cases emitted with
    | clash | refused => exact List.nil_sublist _
    | stored | listed => exact List.Sublist.refl _

/-- The artifacts of a run have names of its entries, in their order. -/
theorem GenerationRun.names_sublist {earlier entries : List Entry}
    {outcomes : List GenerationResult}
    (run : GenerationRun registry sink earlier entries before outcomes after) :
    ((resultOf outcomes).artifacts.map Artifact.typeName).Sublist (entries.map Entry.name) := by
  induction run with
  | done => exact List.nil_sublist _
  | next first rest inductionHypothesis =>
    change (List.map _ (_ ++ _)).Sublist ([_] ++ _)
    rw [List.map_append]
    exact first.names_sublist.append inductionHypothesis

/-- A bindings module is wanted: its name is given, and some artifact has a contract. -/
def WantsBindings (injectionModule : Option Text) (artifacts : List Artifact) : Prop :=
  (∃ module, module ≠ [] ∧ injectionModule = some module) ∧
    ∃ artifact ∈ artifacts, artifact.contracts.any = true

/-- What the bindings module of a run lists, if there is one, and what becomes of it. -/
inductive ListsContracts {σ : Type} (registry : Registry) (injectionModule : Option Text)
    (sink : Option (Sink σ)) (artifacts : List Artifact) (before : σ) :
    GenerationResult → σ → Prop where
  /-- None is wanted, and none is attempted. -/
  | unwanted (absent : ¬ WantsBindings injectionModule artifacts) :
      ListsContracts registry injectionModule sink artifacts before {} before
  /-- One is wanted. It lists the artifacts with contracts, ordered by the names of the types,
  and claims its module behind all entries. -/
  | attempted {module : Text} {bindings : Artifact} {ordered : List Artifact}
      {outcome : GenerationResult} {after : σ}
      (wanted : WantsBindings injectionModule artifacts) (given : injectionModule = some module)
      (listed : ordered.Perm (artifacts.filter (fun artifact => artifact.contracts.any)))
      (sorted : ordered.Pairwise
        (fun earlier later => ¬ Text.Before later.typeName earlier.typeName))
      (increasing : (registry.entries.map Entry.name).Nodup →
        ordered.Pairwise (fun earlier later => Text.Before earlier.typeName later.typeName))
      (text : bindings.text = listingText module ordered)
      (emitted : Emission sink (claimsOf registry (registry.entriesOf .generation)) bindings
        ("injection module " ++ module) before outcome after) :
      ListsContracts registry injectionModule sink artifacts before outcome after

/-- A bindings module is rendered exactly if it is wanted, and then from the artifacts that
have contracts. -/
theorem bindingsArtifact?_spec (defaultPackage : Text) (injectionModule : Option Text)
    (artifacts : List Artifact) :
    match bindingsArtifact? defaultPackage injectionModule artifacts with
    | none => ¬ WantsBindings injectionModule artifacts
    | some bindings => WantsBindings injectionModule artifacts ∧
        ∃ module, injectionModule = some module ∧
          bindings.text = Bindings.moduleText indentWidth module
            (artifacts.filter (fun artifact => artifact.contracts.any)) := by
  have declaring : (artifacts.filter (fun artifact => artifact.contracts.any)).isEmpty = false ↔
      ∃ artifact ∈ artifacts, artifact.contracts.any = true := by simp
  cases injectionModule with
  | none =>
    rintro ⟨⟨module, -, given⟩, -⟩
    cases given
  | some module =>
    cases module with
    | nil =>
      rintro ⟨⟨module, spelled, given⟩, -⟩
      exact spelled (Option.some.inj given).symm
    | cons first rest =>
      have spelled : first :: rest ≠ [] := List.cons_ne_nil first rest
      unfold bindingsArtifact?
      dsimp only
      cases none : (artifacts.filter (fun artifact => artifact.contracts.any)).isEmpty with
      | true =>
        rintro ⟨-, some⟩
        exact absurd (declaring.mpr some) (by rw [none]; decide)
      | false => exact ⟨⟨⟨_, spelled, rfl⟩, declaring.mp none⟩, _, rfl, rfl⟩

/-- What the bindings module adds to a run is accounted for by what it lists. -/
theorem BindingsOutcome.lists {injectionModule : Option Text} {artifacts : List Artifact}
    {outcome : GenerationResult}
    (settled : BindingsOutcome registry injectionModule sink (registry.entriesOf .generation)
      artifacts before outcome after)
    (names : (artifacts.map Artifact.typeName).Sublist
      ((registry.entriesOf .generation).map Entry.name)) :
    ListsContracts registry injectionModule sink artifacts before outcome after := by
  have spec := bindingsArtifact?_spec registry.defaultPackage injectionModule artifacts
  cases settled with
  | unwanted absent =>
    rw [absent] at spec
    exact .unwanted spec
  | emission wanted emitted =>
    rw [wanted] at spec
    obtain ⟨wants, module, rfl, text⟩ := spec
    rw [Bindings.moduleText_eq] at text
    refine .attempted wants rfl (Bindings.ordered_perm _) (Bindings.ordered_sorted _) ?_ text
      emitted
    intro distinct
    refine Bindings.ordered_increasing ?_
    exact (registry.entriesOf_distinct _ distinct).sublist
      ((List.filter_sublist.map Artifact.typeName).trans names)

end Generation

/-- A registry of one object type with an identity field and a computed field. -/
def userRegistry : Registry :=
  { defaultPackage := "ns", frozen := true,
    entries :=
      [⟨.object ⟨"User", [],
        [⟨"id", [], .named ⟨"ID", .unknown⟩, [], none, .unknown⟩,
          ⟨"posts", [⟨"first", .named ⟨"Int", .unknown⟩, none, [], none, .unknown⟩],
            .named ⟨"Int", .unknown⟩, [], none, .unknown⟩], [], none, .unknown⟩,
        "s.graphql", "ns", .generation⟩] }

end SchemaForge

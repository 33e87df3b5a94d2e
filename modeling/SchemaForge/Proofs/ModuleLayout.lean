import SchemaForge.Generation

/-!
# The layout of a generated module

The text of a module is a comment, a docstring, the imports and the definitions, one
behind the other with empty lines between them. One of its parts matters to other modules:
the edges, which stand at the end of the imports under their own condition.

The parts are told apart by what they are rendered from. Names of schemas and of packages
are pasted as they are, so nothing is said here about how the text is read.
-/

namespace SchemaForge

/-! ## Joined parts -/

namespace Text

/-- A part in front of others. -/
theorem join_cons (separator part : Text) {others : List Text} (some : others ≠ []) :
    join separator (part :: others) = part ++ separator ++ join separator others := by
  obtain ⟨next, others, rfl⟩ := List.exists_cons_of_ne_nil some
  rfl

/-- A part behind others. -/
theorem join_concat (separator part : Text) {others : List Text} (some : others ≠ []) :
    join separator (others ++ [part]) = join separator others ++ separator ++ part := by
  induction others with
  | nil => exact absurd rfl some
  | cons other others inductionHypothesis =>
    cases others with
    | nil => rfl
    | cons next others =>
      have rest := inductionHypothesis (List.cons_ne_nil next others)
      rw [List.cons_append, join_cons separator other (by simp), rest,
        join_cons separator other (List.cons_ne_nil next others)]
      simp only [List.append_assoc]

/-- Parts of which one is not empty are joined to more than nothing. -/
theorem join_ne_nil (separator : Text) {part : Text} {parts : List Text} (member : part ∈ parts)
    (some : part ≠ []) : join separator parts ≠ [] := by
  induction parts with
  | nil => cases member
  | cons first others inductionHypothesis =>
    cases others with
    | nil => exact List.mem_singleton.mp member ▸ some
    | cons next others =>
      rw [join_cons separator first (List.cons_ne_nil next others)]
      obtain rfl | member := List.mem_cons.mp member
      · simp [some]
      · simp [inductionHypothesis member]

end Text

/-! ## Imports -/

namespace Layout

/-- The edges are the last block of the imports: a condition, and then their lines. What stands
in front of them is the same whatever they are. -/
theorem imports_lead (lines : List Text) :
    ∃ lead, ∀ dependencies : List Dependency, dependencies ≠ [] →
      imports lines dependencies =
        Text.concat [lead, "\n\nif TYPE_CHECKING:\n",
          Text.join [.lineFeed] (dependencies.map importLine)] := by
  have behind : ∀ blocks : List Text, blocks ≠ [] → ∀ edges : List Text, edges ≠ [] →
      Text.join [.lineFeed, .lineFeed]
          (blocks ++ [Text.join [.lineFeed] ("if TYPE_CHECKING:" :: edges)]) =
        Text.concat [Text.join [.lineFeed, .lineFeed] blocks, "\n\nif TYPE_CHECKING:\n",
          Text.join [.lineFeed] edges] := by
    intro blocks someBlocks edges someEdges
    rw [Text.join_concat _ _ someBlocks, Text.join_cons _ _ someEdges]
    simp only [Text.concat, List.flatten_cons, List.flatten_nil, List.append_assoc,
      List.append_nil]
    rfl
  constructor
  intro dependencies some
  have given : dependencies.isEmpty = false := by simpa using some
  unfold imports
  simp only [given, Bool.false_eq_true, ↓reduceIte]
  exact behind _ (by split <;> simp) _ (by simpa using some)

/-- The edges are the last block of the imports. -/
theorem imports_edges (lines : List Text) {dependencies : List Dependency}
    (some : dependencies ≠ []) :
    ∃ lead, imports lines dependencies =
      Text.concat [lead, "\n\nif TYPE_CHECKING:\n",
        Text.join [.lineFeed] (dependencies.map importLine)] := by
  obtain ⟨lead, edges⟩ := imports_lead lines
  exact ⟨lead, edges dependencies some⟩

/-- Imports with a line of the library are not empty. -/
theorem imports_ne_nil {lines : List Text} {line : Text} (member : line ∈ lines)
    (library : importsRuntime line = false) (some : line ≠ []) (dependencies : List Dependency) :
    imports lines dependencies ≠ [] := by
  cases dependencies with
  | cons first others =>
    obtain ⟨lead, edges⟩ := imports_edges lines (List.cons_ne_nil first others)
    rw [edges]
    simp [Text.concat, Text.ofString]
  | nil =>
    have kept : line ∈ sorted (lines.filter (fun line => !importsRuntime line)) := by
      unfold sorted
      rw [List.mem_mergeSort, List.mem_filter, library]
      exact ⟨member, rfl⟩
    have block := Text.join_ne_nil [.lineFeed] kept some
    unfold imports
    refine Text.join_ne_nil _ ?_ block
    simp only [List.isEmpty_nil, ↓reduceIte]
    split <;> simp

end Layout

/-! ## Statements -/

/-- A statement that binds a name in the module where it stands: a class, with its body
indented, an alias of a type, or a new type. -/
inductive BindingStatement (name : Text) : Text → Prop where
  | record (body : Text) :
      BindingStatement name
        (Text.concat ["@_dataclasses.dataclass(kw_only=True)\nclass ", name, ":\n",
          Layout.indent indentWidth body])
  | subclass (base body : Text) :
      BindingStatement name
        (Text.concat ["class ", name, "(", base, "):\n", Layout.indent indentWidth body])
  | alias (type : Text) : BindingStatement name (Text.concat [name, ": TypeAlias = ", type])
  | newType :
      BindingStatement name (Text.concat [name, " = NewType(", Text.quoted name, ", object)"])

namespace Render

variable {definition : Definition} {contracts : Contracts} {parts : Parts}

/-- Every module imports from the library. -/
theorem parts_imports (rendered : Render.parts indentWidth definition contracts = .ok parts) :
    ∃ line ∈ parts.imports, Layout.importsRuntime line = false ∧ line ≠ [] := by
  cases definition with
  | object type =>
    cases rendered
    refine ⟨dataclassesImport, ?_, by decide, by decide⟩
    unfold objectParts
    dsimp only
    cases contracts.any <;> exact List.mem_cons_self
  | union type =>
    cases rendered
    unfold unionParts
    split <;> exact ⟨_, List.mem_cons_self, by decide, by decide⟩
  | inputObject _ | interface _ | enum _ | scalar _ =>
    cases rendered
    exact ⟨_, List.mem_cons_self, by decide, by decide⟩
  | directive _ | schema _ => cases rendered

variable {entry : Entry} {dependencies : List Dependency} {text : Text}

/-- The parts of a module in the order of its text. None of them is empty. -/
theorem moduleText_layout
    (rendered : moduleText indentWidth entry dependencies contracts = .ok text) :
    ∃ parts, Render.parts indentWidth entry.definition contracts = .ok parts ∧
      text = Text.concat [header entry, "\n\n", moduleDoc entry,
        "\n\nfrom __future__ import annotations\n\n",
        Layout.imports parts.imports dependencies, "\n\n\n", parts.body, "\n"] := by
  unfold moduleText at rendered
  dsimp only at rendered
  split at rendered
  · cases found : Render.parts indentWidth entry.definition contracts with
    | error fault =>
      rw [found] at rendered
      cases rendered
    | ok parts =>
      refine ⟨parts, rfl, ?_⟩
      obtain ⟨line, member, library, some⟩ := parts_imports found
      have imports := Layout.imports_ne_nil member library some dependencies
      have headed : header entry ≠ [] := by simp [header, Text.concat, Text.ofString]
      have documented : moduleDoc entry ≠ [] := by
        unfold moduleDoc Layout.docstring
        dsimp only
        split <;> simp [Text.concat]
      have kept := List.filter_eq_self (p := fun part : Text => !part.isEmpty)
        (l := [header entry, moduleDoc entry, "from __future__ import annotations",
          Layout.imports parts.imports dependencies, newLine ++ parts.body])
      rw [found] at rendered
      dsimp only at rendered
      rw [kept.mpr (by simp [headed, documented, imports, newLine, Text.ofString])] at rendered
      rw [← Except.ok.inj rendered]
      simp only [Text.join, Text.concat, List.flatten_cons, List.flatten_nil, List.append_assoc,
        List.append_nil]
      rfl
  · cases rendered

/-- The module of an entry with dependencies has a line for each, behind their condition and
in front of its definitions. -/
theorem moduleText_edges
    (rendered : moduleText indentWidth entry dependencies contracts = .ok text)
    (some : dependencies ≠ []) :
    ∃ front definitions, text =
      Text.concat [front, "\n\nif TYPE_CHECKING:\n",
        Text.join [.lineFeed] (dependencies.map Layout.importLine), "\n\n\n", definitions,
        "\n"] := by
  obtain ⟨parts, -, layout⟩ := moduleText_layout rendered
  obtain ⟨lead, edges⟩ := Layout.imports_edges parts.imports some
  refine ⟨Text.concat [header entry, "\n\n", moduleDoc entry,
    "\n\nfrom __future__ import annotations\n\n", lead], parts.body, ?_⟩
  rw [layout, edges]
  simp [Text.concat]

end Render

end SchemaForge

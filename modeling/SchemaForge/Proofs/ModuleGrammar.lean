import Mathlib.Data.List.TakeWhile
import SchemaForge.Proofs.DocstringLiterals
import SchemaForge.Proofs.LiteralReading
import SchemaForge.Proofs.LogicalLines

/-!
# The grammar of modules

The second stage of reading the generated language: which logical lines are a module. The grammar
here is a part of the language's own. Whatever it derives is a module, and it has what is needed
for classes with annotated members, aliases, new types and imports, but neither functions nor
loops nor operators other than the bar. Names are in ASCII, and the spacing is fixed. It says
nothing of how a module is rendered; how deeply brackets may be nested and how long a number may
be are limits of interpreters, and are not part of it.

What a module binds is read off its lines as well. A line at the margin belongs to the module and
to no body, since the lines of a body are indented. So a name is bound by a module if the lines
are a module and one of those at the margin is a class of that name, an alias or a new type.
-/

namespace SchemaForge

namespace ModuleSyntax

/-! ## Names -/

/-- A name that code can use. -/
def IsIdentifier (text : Text) : Prop := text.isName = true ∧ text ∉ ModuleName.keywords

/-- A name that code can bind. There is one constant that is spelled like any name. -/
def CanBind (text : Text) : Prop := IsIdentifier text ∧ text ≠ "__debug__"

/-- Names with a dot between them. -/
def IsDottedName (text : Text) : Prop :=
  ∃ names : List Text, names ≠ [] ∧ (∀ name ∈ names, IsIdentifier name) ∧
    text = Text.join "." names

/-- A module to import from. Dots in front make it relative to the importing module. -/
def IsModulePath (text : Text) : Prop :=
  ∃ (dots : Nat) (path : Text), IsDottedName path ∧
    text = List.replicate dots (CodePoint.ofChar '.') ++ path

instance (text : Text) : Decidable (IsIdentifier text) :=
  decidable_of_iff ((text.isName && !ModuleName.keywords.contains text) = true)
    (by simp [IsIdentifier])

instance (text : Text) : Decidable (CanBind text) := by
  unfold CanBind
  infer_instance

/-! ## Expressions -/

mutual

/-- An expression: what is read and called by dotted names, constants, tuples, and expressions
with a bar between them. -/
inductive Expression : Text → Prop where
  | path {path : Text} (dotted : IsDottedName path) : Expression path
  | constant {literal : Text} {said : Constant} (read : Constant.ofLiteral literal = some said) :
      Expression literal
  | ellipsis : Expression "..."
  | subscript {path : Text} {items : List Text} (dotted : IsDottedName path) (some : items ≠ [])
      (expressions : ∀ item ∈ items, Expression item) :
      Expression (Text.concat [path, "[", Text.join ", " items, "]"])
  | call {path arguments : Text} (dotted : IsDottedName path) (given : CallArguments arguments) :
      Expression (Text.concat [path, "(", arguments, ")"])
  | alternative {left right : Text} (first : Expression left) (second : Expression right) :
      Expression (Text.concat [left, " | ", right])
  | tuple {items : List Text} (some : items ≠ [])
      (expressions : ∀ item ∈ items, Expression item) :
      Expression (Text.concat ["(", Text.join ", " items, ",)"])

/-- The arguments of a call: some by their places, or one by its name, which may be computed by a
function without parameters. -/
inductive CallArguments : Text → Prop where
  | placed {items : List Text} (expressions : ∀ item ∈ items, Expression item) :
      CallArguments (Text.join ", " items)
  | named {name value : Text} (identifier : CanBind name) (expression : Expression value) :
      CallArguments (Text.concat [name, "=", value])
  | delayed {name value : Text} (identifier : CanBind name) (expression : Expression value) :
      CallArguments (Text.concat [name, "=lambda: ", value])

end

/-! ## Statements -/

/-- The escapes of a literal are those of quotes and backslashes. -/
def escapesKnown : Text → Bool
  | [] => true
  | c :: rest =>
    if c = .backslash then
      match rest with
      | [] => false
      | d :: rest => (d = .quote || d = .backslash) && escapesKnown rest
    else escapesKnown rest

/-- A line that is a literal between triple quotes, possibly with an empty literal behind it. -/
def IsDocstring (text : Text) : Prop :=
  escapesKnown text = true ∧ ∃ said behind, readLiteral text = some (said, behind) ∧
    (behind = [] ∨ behind = [.quote, .quote])

/-- A statement on one line. What comes from the future is imported at the beginning of a module
and nowhere else, so there is no such import here. -/
inductive SimpleStatement : Text → Prop where
  | docstring {text : Text} (literal : IsDocstring text) : SimpleStatement text
  | module {path name : Text} (dotted : IsDottedName path) (bound : CanBind name) :
      SimpleStatement (Text.concat ["import ", path, " as ", name])
  | renamed {path given name : Text} (module : IsModulePath path) (present : path ≠ "__future__")
      (identifier : IsIdentifier given) (bound : CanBind name) :
      SimpleStatement (Text.concat ["from ", path, " import ", given, " as ", name])
  | names {path : Text} {names : List Text} (module : IsModulePath path)
      (present : path ≠ "__future__") (some : names ≠ []) (bound : ∀ name ∈ names, CanBind name) :
      SimpleStatement (Text.concat ["from ", path, " import ", Text.join ", " names])
  | declared {name type : Text} (bound : CanBind name) (expression : Expression type) :
      SimpleStatement (Text.concat [name, ": ", type])
  | initialized {name type value : Text} (bound : CanBind name) (expression : Expression type)
      (initial : Expression value) : SimpleStatement (Text.concat [name, ": ", type, " = ", value])
  | assigned {name value : Text} (bound : CanBind name) (expression : Expression value) :
      SimpleStatement (Text.concat [name, " = ", value])

/-- The head of a class. -/
inductive ClassHead : Text → Prop where
  | plain {name : Text} (bound : CanBind name) : ClassHead (Text.concat ["class ", name, ":"])
  | derived {name base : Text} (bound : CanBind name) (expression : Expression base) :
      ClassHead (Text.concat ["class ", name, "(", base, "):"])

/-- Lines that are statements at an indentation. The body of a compound statement is indented
further. -/
inductive Block : Nat → List LogicalLine → Prop where
  | done {indent : Nat} : Block indent []
  | simple {indent : Nat} {text : Text} {rest : List LogicalLine}
      (statement : SimpleStatement text) (further : Block indent rest) :
      Block indent (⟨indent, text⟩ :: rest)
  | condition {indent deeper : Nat} {test : Text} {body rest : List LogicalLine}
      (expression : Expression test) (inner : indent < deeper) (some : body ≠ [])
      (block : Block deeper body) (further : Block indent rest) :
      Block indent (⟨indent, Text.concat ["if ", test, ":"]⟩ :: (body ++ rest))
  | classBody {indent deeper : Nat} {decorators : List Text} {head : Text}
      {body rest : List LogicalLine} (decorated : ∀ call ∈ decorators, Expression call)
      (named : ClassHead head) (inner : indent < deeper) (some : body ≠ [])
      (block : Block deeper body) (further : Block indent rest) :
      Block indent (decorators.map (fun call => ⟨indent, CodePoint.ofChar '@' :: call⟩) ++
        ⟨indent, head⟩ :: (body ++ rest))

/-- The import that makes annotations unevaluated. -/
def futureImport : Text := "from __future__ import annotations"

/-- Lines that are a module: a docstring, the import from the future, and statements. -/
inductive IsModule : List LogicalLine → Prop where
  | intro {doc : Text} {lines : List LogicalLine} (documented : IsDocstring doc)
      (block : Block 0 lines) : IsModule (⟨0, doc⟩ :: ⟨0, futureImport⟩ :: lines)

/-! ## What a module binds -/

/-- A line that binds a name to a class, an alias of a type, or a new type. -/
inductive BindsName (name : Text) : Text → Prop where
  | plainClass : BindsName name (Text.concat ["class ", name, ":"])
  | derivedClass (base : Text) : BindsName name (Text.concat ["class ", name, "(", base, "):"])
  | alias (type : Text) : BindsName name (Text.concat [name, ": TypeAlias = ", type])
  | newType (called : Text) : BindsName name (Text.concat [name, " = NewType(", called, ")"])

/-- A text is a module that binds a name: its lines are those of a module, and one at the margin
binds the name. -/
def ModuleBinds (name text : Text) : Prop :=
  ∃ lines, LogicalLine.ofText text = some lines ∧ IsModule lines ∧
    ∃ line ∈ lines, line.indent = 0 ∧ BindsName name line.text

/-- The name of a class that is declared at the margin under a class of the runtime with one
parameter. -/
def contractClass? (base : Text) (line : LogicalLine) : Option Text :=
  if line.indent = 0 then
    (Text.after? line.text "class ").bind (fun rest =>
      if Text.startsWith (rest.dropWhile CodePoint.isNameRest)
          (Text.concat ["(_runtime.", base, "["]) then
        some (rest.takeWhile CodePoint.isNameRest)
      else none)
  else none

/-- The classes that lines declare under a class of the runtime, in their order. -/
def contractClasses (base : Text) (lines : List LogicalLine) : List Text :=
  lines.filterMap (contractClass? base)

/-- The condition that a type checker takes to be met. -/
def checkCondition : LogicalLine := ⟨0, "if TYPE_CHECKING:"⟩

/-- What stands under that condition: the lines behind it, up to the next one at the margin. -/
def checkedLines : List LogicalLine → List Text
  | [] => []
  | line :: rest =>
    if line = checkCondition then
      (rest.takeWhile (fun line => decide (0 < line.indent))).map LogicalLine.text
    else checkedLines rest

/-! ## First words -/

/-- A statement on one line begins with no keyword but those of imports. -/
theorem SimpleStatement.firstWord {text : Text} (statement : SimpleStatement text) :
    text.takeWhile CodePoint.isNameRest ∈ [("import" : Text), "from"] ∨
      text.takeWhile CodePoint.isNameRest ∉ ModuleName.keywords := by
  have bound {name rest : Text} (usable : IsIdentifier name)
      (ends : Halts CodePoint.isNameRest rest) :
      (name ++ rest).takeWhile CodePoint.isNameRest ∉ ModuleName.keywords := by
    have named : ∀ c ∈ name, c.isNameRest = true := by
      have spelled := usable.1
      simp only [Text.isName, Bool.and_eq_true, List.all_eq_true] at spelled
      exact spelled.2
    have taken := ends.takeWhile_append name
    rw [List.takeWhile_eq_self_iff.mpr named] at taken
    rw [taken]
    exact usable.2
  cases statement with
  | docstring literal =>
    obtain ⟨-, said, behind, read, -⟩ := literal
    obtain ⟨rest, opened, -⟩ := Option.bind_eq_some_iff.mp read
    rw [Text.eq_append_of_after? opened]
    have none : [] ∉ ModuleName.keywords := by decide +kernel
    exact .inr none
  | module => exact .inl (.head _)
  | renamed | names => exact .inl (.tail _ (.head _))
  | declared name => exact .inr (bound name.1 (.cons (by decide)))
  | initialized name => exact .inr (bound name.1 (.cons (by decide)))
  | assigned name => exact .inr (bound name.1 (.cons (by decide)))

/-- So no class is declared on such a line. -/
theorem SimpleStatement.contractClass?_eq {text : Text} (statement : SimpleStatement text)
    (base : Text) (indent : Nat) : contractClass? base ⟨indent, text⟩ = none := by
  have absent : Text.after? text "class " = none := by
    rw [Option.eq_none_iff_forall_ne_some]
    intro more found
    have keyword : Text.ofString "class" ∈ ModuleName.keywords := by decide +kernel
    have other : Text.ofString "class" ∉ [("import" : Text), "from"] := by decide +kernel
    rw [Text.eq_append_of_after? found] at statement
    exact statement.firstWord.elim other (absurd keyword)
  rw [contractClass?, absent]
  split <;> rfl

/-- Neither is it a condition. -/
theorem SimpleStatement.ne_checkCondition {text : Text} (statement : SimpleStatement text)
    (indent : Nat) : (⟨indent, text⟩ : LogicalLine) ≠ checkCondition := by
  intro same
  obtain ⟨-, rfl⟩ := LogicalLine.mk.inj same
  have keyword : Text.ofString "if" ∈ ModuleName.keywords := by decide +kernel
  have other : Text.ofString "if" ∉ [("import" : Text), "from"] := by decide +kernel
  exact statement.firstWord.elim other (absurd keyword)

/-! ## Blocks -/

variable {indent : Nat} {lines more : List LogicalLine}

/-- Statements behind statements. -/
theorem Block.append (front : Block indent lines) (back : Block indent more) :
    Block indent (lines ++ more) := by
  induction front with
  | done => exact back
  | simple statement _ inductionHypothesis => exact .simple statement (inductionHypothesis back)
  | condition expression inner some block _ _ inductionHypothesis =>
    rw [List.cons_append, List.append_assoc]
    exact .condition expression inner some block (inductionHypothesis back)
  | classBody decorated named inner some block _ _ inductionHypothesis =>
    rw [List.append_assoc, List.cons_append, List.append_assoc]
    exact .classBody decorated named inner some block (inductionHypothesis back)

/-- Simple statements at the same indentation are a block. -/
theorem Block.ofSimple {texts : List Text} (statements : ∀ text ∈ texts, SimpleStatement text) :
    Block indent (texts.map (LogicalLine.mk indent)) := by
  induction texts with
  | nil => exact .done
  | cons text texts inductionHypothesis =>
    obtain ⟨first, others⟩ := List.forall_mem_cons.mp statements
    exact .simple first (inductionHypothesis others)

/-- Nothing in a block stands further left than the block. So the lines of a body are not at the
margin. -/
theorem Block.indent_le (block : Block indent lines) : ∀ line ∈ lines, indent ≤ line.indent := by
  induction block with
  | done => simp
  | simple _ _ inductionHypothesis => simpa using inductionHypothesis
  | condition _ inner _ _ _ body rest =>
    simp only [List.mem_cons, List.mem_append]
    rintro line (rfl | member | member)
    · exact Nat.le_refl _
    · exact Nat.le_trans (Nat.le_of_lt inner) (body line member)
    · exact rest line member
  | classBody _ _ inner _ _ _ body rest =>
    simp only [List.mem_append, List.mem_map, List.mem_cons]
    rintro line (⟨call, -, rfl⟩ | rfl | member | member)
    · exact Nat.le_refl _
    · exact Nat.le_refl _
    · exact Nat.le_trans (Nat.le_of_lt inner) (body line member)
    · exact rest line member

end ModuleSyntax

end SchemaForge

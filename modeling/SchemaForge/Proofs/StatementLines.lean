import SchemaForge.Proofs.DocstringLines
import SchemaForge.Proofs.ModuleOutline

/-!
# Lines of statements

The statements of the outline, read as lines. A statement is proper if its names can be bound, its
values are expressions and its docstring can be said. Then its text is read as the lines of a
class with an indented body, or as a single line, and these lines are statements of the grammar.
What they bind is read off the first ones, and so is what classes are derived from.
-/

namespace SchemaForge

open LogicalLine ModuleSyntax

/-! ## Names of classes -/

/-- The capital of a code point of a name is one of a name. -/
theorem ModuleName.toUpper_isNameRest {c : CodePoint} (named : c.isNameRest = true) :
    ∀ capital ∈ c.toUpper, capital.isNameRest = true := by
  unfold CodePoint.toUpper
  rw [if_pos (ascii_of_isNameRest named)]
  split
  · next lower =>
    simp only [CodePoint.isLower, CodePoint.between, Bool.and_eq_true, decide_eq_true_eq] at lower
    have first : 97 ≤ c.val := lower.1
    have last : c.val ≤ 122 := lower.2
    have valid : c.val - 32 < 0x110000 := by omega
    intro capital member
    rw [List.mem_singleton.mp member]
    have upper : (CodePoint.ofNat (c.val - 32)).isUpper = true := by
      simp only [CodePoint.isUpper, CodePoint.between, CodePoint.ofNat, valid, ↓reduceDIte,
        Bool.and_eq_true, decide_eq_true_eq]
      exact ⟨Nat.sub_le_sub_right first 32, Nat.sub_le_sub_right last 32⟩
    simp [CodePoint.isNameRest, CodePoint.isNameStart, upper]
  · intro capital member
    rw [List.mem_singleton.mp member]
    exact named

/-- The class of a contract has a name that can be bound, whatever stands between the type and
the ending. -/
theorem canBind_contract {typeName stem : Text} (named : typeName.isName = true)
    (all : ∀ c ∈ stem, c.isNameRest = true) :
    CanBind (typeName ++ (stem ++ Text.ofString "Resolver")) := by
  have ending : ∀ c ∈ ("Resolver" : Text), c.isNameRest = true := by decide
  have long : 9 ≤ (typeName ++ (stem ++ Text.ofString "Resolver")).length := by
    have some : 0 < typeName.length := by
      cases typeName with
      | nil => cases named
      | cons c rest => exact Nat.succ_pos _
    have eight : (Text.ofString "Resolver").length = 8 := by decide
    simp only [List.length_append, eight]
    omega
  refine ⟨⟨?_, ?_⟩, ?_⟩
  · rw [Text.isName, Bool.and_eq_true] at named ⊢
    refine ⟨?_, List.all_eq_true.mpr ?_⟩
    · cases typeName with
      | nil => cases named.1
      | cons c rest => exact named.1
    · exact List.forall_mem_append.mpr
        ⟨List.all_eq_true.mp named.2, List.forall_mem_append.mpr ⟨all, ending⟩⟩
  · intro reserved
    have short : ∀ keyword ∈ ModuleName.keywords, keyword.length < 9 := by decide +kernel
    exact absurd long (Nat.not_le_of_lt (short _ reserved))
  · intro same
    have last := congrArg List.getLast? same
    simp [Text.ofString] at last
    revert last
    decide

/-- So has the class for batch lookup. -/
theorem canBind_batchResolver {typeName : Text} (named : typeName.isName = true) :
    CanBind (ModuleName.batchResolver typeName) := by
  have none : ∀ c ∈ ([] : Text), c.isNameRest = true := List.forall_mem_nil _
  exact canBind_contract named none

/-- So has the class of a computed field. -/
theorem canBind_fieldResolver {typeName fieldName : Text} (named : typeName.isName = true)
    (field : fieldName.isName = true) :
    CanBind (ModuleName.fieldResolver typeName fieldName) := by
  have all := isNameRest_of_isName field
  have stem : ∀ c ∈ Text.upper (fieldName.take 1) ++ fieldName.drop 1, c.isNameRest = true := by
    refine List.forall_mem_append.mpr ⟨?_, fun c member => all c (List.mem_of_mem_drop member)⟩
    intro c member
    obtain ⟨letter, given, capital⟩ := List.mem_flatMap.mp member
    exact ModuleName.toUpper_isNameRest (all letter (List.mem_of_mem_take given)) c capital
  have whole := canBind_contract named stem
  simpa [ModuleName.fieldResolver, Text.concat] using whole

/-! ## Members -/

/-- A member that can be written in a class body. -/
inductive ClassMember.Proper : ClassMember → Prop where
  | declared {name : Text} {type : TypeReference} (bound : CanBind (ModuleName.identifier name))
      (typed : type.innermost.name.isName = true) : Proper (.field name type [])
  | initialized {name value : Text} {type : TypeReference}
      (bound : CanBind (ModuleName.identifier name)) (typed : type.innermost.name.isName = true)
      (coded : Coded value) : Proper (.field name type (Text.concat [" = ", value]))
  | value {name : Text} (bound : CanBind (ModuleName.identifier name)) : Proper (.value name)
  | arguments {names : List Text} (some : names ≠ []) : Proper (.arguments names)

/-- The type of the constant that lists arguments is an expression. -/
theorem coded_namesType : Coded "tuple[str, ...]" where
  expression := by
    have some : IsDottedName "str" := isDottedName_library (by simp [libraryNames])
    have tuple : IsDottedName "tuple" := isDottedName_library (by simp [libraryNames])
    have items := Expression.subscript tuple (List.cons_ne_nil _ _)
      (List.forall_mem_cons.mpr ⟨.path some, List.forall_mem_singleton.mpr .ellipsis⟩)
    simpa [Text.concat, Text.join, Text.ofString] using items
  snippet := by
    have inside : Snippet "str, ..." := .plain (by decide)
    have name : ∀ c ∈ ("tuple" : Text), isPlain c = true := by decide
    exact Snippet.behind name inside.subscripted
  line := by decide

/-- Quoted texts in a tuple are an expression. -/
theorem coded_names {names : List Text} (some : names ≠ []) :
    Coded (Text.concat ["(", Text.join ", " (names.map Text.quoted), ",)"]) := by
  have each : ∀ item ∈ names.map Text.quoted, Coded item :=
    List.forall_mem_map.mpr (fun name _ => .quoted name)
  obtain ⟨snippet, line⟩ := Coded.items each
  refine ⟨.tuple (by simpa using some) (fun item member => (each item member).expression), ?_, ?_⟩
  · have comma : Snippet "," := .plain (by decide)
    have whole := (snippet.append comma (.cons (by decide))).parenthesized
    simpa [Text.concat, Text.ofString] using whole
  · have opening : Text.OnOneLine "(" := by decide
    have closing : Text.OnOneLine ",)" := by decide
    simpa [Text.concat] using opening.append (line.append closing)

/-- The line of a proper member is a statement. -/
theorem ClassMember.Proper.codeLine {member : ClassMember} (proper : member.Proper) :
    CodeLine member.line := by
  cases proper with
  | declared bound typed =>
    have whole := CodeLine.declared bound (.annotated typed)
    simpa [ClassMember.line, boundName, content, Text.concat] using whole
  | initialized bound typed coded =>
    have whole := CodeLine.initialized bound (.annotated typed) coded
    simpa [ClassMember.line, boundName, content, Text.concat] using whole
  | @value name bound =>
    have whole := CodeLine.assigned bound (.quoted name)
    simpa [ClassMember.line, boundName, content, Text.concat] using whole
  | arguments some =>
    have bound : CanBind "ARGUMENTS" := canBind_library _ (by simp [libraryNames])
    have whole := CodeLine.initialized bound coded_namesType (coded_names some)
    simpa [ClassMember.line, boundName, content, Text.concat, Text.ofString] using whole

/-! ## Base classes -/

/-- A base class that can be written. -/
def BaseClass.Proper : BaseClass → Prop
  | lookup typeName => typeName.isName = true
  | protocol | enumeration | computation _ => True

/-- What stands behind the name of a class of the runtime. -/
theorem coded_runtime {name item : Text} (identifier : IsIdentifier name) (coded : Coded item) :
    Coded (Text.concat ["_runtime.", name, "[", item, "]"]) := by
  have runtime : IsIdentifier "_runtime" := (canBind_library _ (by simp [libraryNames])).1
  have dotted : IsDottedName ("_runtime." ++ name) :=
    ⟨["_runtime", name], List.cons_ne_nil _ _,
      List.forall_mem_cons.mpr ⟨runtime, List.forall_mem_singleton.mpr identifier⟩, rfl⟩
  have all := isNameRest_of_isName identifier.1
  have plain : ∀ c ∈ Text.ofString "_runtime." ++ name, isPlain c = true :=
    List.forall_mem_append.mpr ⟨by decide, fun c member => isPlain_of_isNameRest (all c member)⟩
  have line : Text.OnOneLine ("_runtime." ++ name) :=
    .append (by decide) (onOneLine_of_isNameRest all)
  have whole := Coded.subscript dotted plain line (List.cons_ne_nil _ [])
    (List.forall_mem_singleton.mpr coded)
  simpa [Text.concat, Text.join] using whole

/-- A proper base class is an expression. -/
theorem BaseClass.Proper.coded {base : BaseClass} (proper : base.Proper) : Coded base.text := by
  cases base with
  | protocol =>
    have library : Coded "Protocol" := .library (by simp [libraryNames])
    exact library
  | enumeration =>
    have library : Coded "Enum" := .library (by simp [libraryNames])
    exact library
  | lookup typeName =>
    have resolver : IsIdentifier "Resolver" := (canBind_library _ (by simp [libraryNames])).1
    have whole := coded_runtime resolver (.identifier (isIdentifier_identifier proper))
    have opening : ("_runtime.Resolver[" : Text) =
        Text.ofString "_runtime." ++ (Text.ofString "Resolver" ++ Text.ofString "[") := rfl
    rw [BaseClass.text, opening]
    simpa [Text.concat] using whole
  | computation type =>
    have resolver : IsIdentifier "FieldResolver" := (canBind_library _ (by simp [libraryNames])).1
    have whole := coded_runtime resolver (.quoted type.annotation)
    have opening : ("_runtime.FieldResolver[" : Text) =
        Text.ofString "_runtime." ++ (Text.ofString "FieldResolver" ++ Text.ofString "[") := rfl
    rw [BaseClass.text, opening]
    simpa [Text.concat] using whole

/-! ## Statements -/

namespace Statement

/-- A statement that can be written. -/
inductive Proper : Statement → Prop where
  | record {typeName doc : Text} {members : List ClassMember}
      (bound : CanBind (ModuleName.identifier typeName)) (quotable : Quotable doc)
      (proper : ∀ member ∈ members, member.Proper) : Proper (.record typeName doc members)
  | subclass {name doc : Text} {base : BaseClass} {members : List ClassMember}
      (bound : CanBind name) (derived : base.Proper) (quotable : Quotable doc)
      (proper : ∀ member ∈ members, member.Proper) : Proper (.subclass name base doc members)
  | union {typeName : Text} {types : List Text} (bound : CanBind (ModuleName.identifier typeName)) :
      Proper (.union typeName types)
  | newType {typeName : Text} (bound : CanBind (ModuleName.identifier typeName)) :
      Proper (.newType typeName)

/-- The lines of a class body: its docstring and its members. -/
def bodyLines (doc : Text) (members : List ClassMember) : List LogicalLine :=
  ⟨indentWidth, classDoc doc⟩ ::
    (members.map ClassMember.line).map (LogicalLine.mk indentWidth)

/-- The logical lines of a statement. -/
def lines : Statement → List LogicalLine
  | record typeName doc members =>
    ⟨0, "@_dataclasses.dataclass(kw_only=True)"⟩ ::
      ⟨0, Text.concat ["class ", ModuleName.identifier typeName, ":"]⟩ :: bodyLines doc members
  | subclass name base doc members =>
    ⟨0, Text.concat ["class ", name, "(", base.text, "):"]⟩ :: bodyLines doc members
  | other => [⟨0, other.text⟩]

variable {statement : Statement}

/-- A class and its body are on lines of their own. -/
theorem lined_class {head doc : Text} {members : List ClassMember} (snippet : Snippet head)
    (quotable : Quotable doc) (proper : ∀ member ∈ members, member.Proper) :
    Lined (Text.concat ["class ", head, ":\n", Layout.indent indentWidth (body doc members)])
      (⟨0, Text.concat ["class ", head, ":"]⟩ :: bodyLines doc members) := by
  have colon : Snippet ":" := .plain (by decide)
  have named : Snippet ("class " ++ (head ++ Text.ofString ":")) :=
    .behind (by decide) (snippet.append colon (.cons (by decide)))
  have first := lined_snippet named rfl (by decide) 0
  have each : ∀ text ∈ members.map ClassMember.line, CodeLine text :=
    List.forall_mem_map.mpr (fun member given => (proper member given).codeLine)
  have whole := first.append (lined_classBody quotable each)
  have ending : (":\n" : Text) = Text.ofString ":" ++ [.lineFeed] := rfl
  rw [ending]
  simpa [Text.concat, Text.blanks, body, bodyLines] using whole

/-- An alias and a new type are statements on one line. -/
theorem codeLine_alias {typeName : Text} (types : List Text)
    (bound : CanBind (ModuleName.identifier typeName)) :
    CodeLine (Statement.union typeName types).text := by
  have declared : Coded "TypeAlias" := .library (by simp [libraryNames])
  cases types with
  | nil => exact .initialized bound declared (.library (by simp [libraryNames]))
  | cons first others =>
    have union : IsDottedName "Union" := isDottedName_library (by simp [libraryNames])
    have items : ∀ item ∈ (first :: others).map
        (fun type => Text.quoted (ModuleName.identifier type)), Coded item :=
      List.forall_mem_map.mpr (fun type _ => .quoted _)
    have whole := CodeLine.initialized bound declared
      (.subscript union (by decide) (by decide) (by simp) items)
    have sign : (": TypeAlias = " : Text) =
        Text.ofString ": " ++ (Text.ofString "TypeAlias" ++ Text.ofString " = ") := rfl
    have opening : ("Union[" : Text) = Text.ofString "Union" ++ Text.ofString "[" := rfl
    rw [Statement.text, sign, opening]
    · simpa [Text.concat] using whole
    · exact List.cons_ne_nil first others

/-- So is a new type. -/
theorem codeLine_newType {typeName : Text} (bound : CanBind (ModuleName.identifier typeName)) :
    CodeLine (Statement.newType typeName).text := by
  have called : IsDottedName "NewType" := isDottedName_library (by simp [libraryNames])
  have object : Coded "object" := .library (by simp [libraryNames])
  have items : ∀ item ∈ [Text.quoted (ModuleName.identifier typeName), "object"], Coded item :=
    List.forall_mem_cons.mpr ⟨.quoted _, List.forall_mem_singleton.mpr object⟩
  obtain ⟨snippet, line⟩ := Coded.items items
  have whole := CodeLine.assigned bound (.call called (by decide) (by decide)
    (.placed (fun item member => (items item member).expression)) snippet line)
  have opening : (" = NewType(" : Text) =
      Text.ofString " = " ++ (Text.ofString "NewType" ++ Text.ofString "(") := rfl
  have closing : (", object)" : Text) =
      Text.ofString ", " ++ (Text.ofString "object" ++ Text.ofString ")") := rfl
  rw [Statement.text, opening, closing]
  simpa [Text.concat, Text.join] using whole

/-- A proper statement is read as its lines. -/
theorem Proper.lined (proper : statement.Proper) : Lined statement.text statement.lines := by
  cases proper with
  | record bound quotable members =>
    have call : Snippet "@_dataclasses.dataclass(kw_only=True)" := by
      have inside : Snippet "kw_only=True" := .plain (by decide)
      have name : ∀ c ∈ ("@_dataclasses.dataclass" : Text), isPlain c = true := by decide
      exact .behind name inside.parenthesized
    have decorator := lined_snippet call rfl (by decide) 0
    have named := (Coded.identifier bound.1).snippet
    have whole := decorator.append (lined_class named quotable members)
    have opening : ("@_dataclasses.dataclass(kw_only=True)\nclass " : Text) =
        Text.ofString "@_dataclasses.dataclass(kw_only=True)" ++
          ([.lineFeed] ++ Text.ofString "class ") := rfl
    rw [Statement.text, opening]
    simpa [lines, Text.concat, Text.blanks] using whole
  | subclass bound derived quotable members =>
    have named := (Coded.identifier bound.1).snippet
    have head := named.append derived.coded.snippet.parenthesized (.cons (by decide))
    have whole := lined_class head quotable members
    have ending : ("):\n" : Text) = Text.ofString ")" ++ Text.ofString ":\n" := rfl
    have closing : ("):" : Text) = Text.ofString ")" ++ Text.ofString ":" := rfl
    rw [Statement.text, lines, ending, closing]
    simpa [Text.concat] using whole
  | @union typeName types bound =>
    have whole := (codeLine_alias types bound).lined 0
    cases types <;> exact whole
  | newType bound => exact (codeLine_newType bound).lined 0

/-- The body of a class is a block. -/
theorem block_bodyLines {doc : Text} {members : List ClassMember} (quotable : Quotable doc)
    (proper : ∀ member ∈ members, member.Proper) : Block indentWidth (bodyLines doc members) := by
  refine .simple (.docstring (lined_classDoc quotable).1) (.ofSimple ?_)
  exact List.forall_mem_map.mpr (fun member given => (proper member given).codeLine.statement)

/-- A proper statement is one of the grammar. -/
theorem Proper.block (proper : statement.Proper) : Block 0 statement.lines := by
  have inner : 0 < indentWidth := by decide
  cases proper with
  | @record typeName doc members bound quotable proper =>
    have called : IsDottedName "_dataclasses.dataclass" :=
      isDottedName_pair "_dataclasses" "dataclass" (by simp [libraryNames]) (by simp [libraryNames])
    have only : CanBind "kw_only" := canBind_library _ (by simp [libraryNames])
    have yes : Expression "True" := expression_of_constant (Constant.says_boolean true)
    have decorated : ∀ call ∈ [("_dataclasses.dataclass(kw_only=True)" : Text)], Expression call :=
      List.forall_mem_singleton.mpr (.call called (.named only yes))
    have whole := Block.classBody decorated (.plain bound) inner (List.cons_ne_nil _ _)
      (block_bodyLines quotable proper) .done
    have marked : ("@_dataclasses.dataclass(kw_only=True)" : Text) =
        CodePoint.ofChar '@' :: Text.ofString "_dataclasses.dataclass(kw_only=True)" := rfl
    rw [lines, marked]
    simpa [bodyLines] using whole
  | @subclass name doc base members bound derived quotable proper =>
    have decorated : ∀ call ∈ ([] : List Text), Expression call := List.forall_mem_nil _
    have whole := Block.classBody decorated (.derived bound derived.coded.expression) inner
      (List.cons_ne_nil _ _) (block_bodyLines quotable proper) .done
    simpa [lines, bodyLines] using whole
  | @union typeName types bound =>
    have whole : Block 0 [⟨0, (Statement.union typeName types).text⟩] :=
      .simple (codeLine_alias types bound).statement .done
    cases types <;> exact whole
  | newType bound => exact .simple (codeLine_newType bound).statement .done

/-- So are proper statements one behind the other. -/
theorem block_lines {statements : List Statement}
    (proper : ∀ statement ∈ statements, statement.Proper) :
    Block 0 (statements.flatMap lines) := by
  induction statements with
  | nil => exact .done
  | cons statement statements inductionHypothesis =>
    obtain ⟨first, others⟩ := List.forall_mem_cons.mp proper
    exact first.block.append (inductionHypothesis others)

/-! ## What statements bind -/

/-- The name of a statement is bound at the margin. -/
theorem lines_bind (statement : Statement) :
    ∃ line ∈ statement.lines, line.indent = 0 ∧ BindsName statement.boundName line.text := by
  cases statement with
  | record typeName doc members =>
    exact ⟨_, List.mem_cons_of_mem _ List.mem_cons_self, rfl, .plainClass⟩
  | subclass name base doc members => exact ⟨_, List.mem_cons_self, rfl, .derivedClass base.text⟩
  | union typeName types =>
    cases types with
    | nil => exact ⟨_, List.mem_cons_self, rfl, .alias "object"⟩
    | cons first others => exact ⟨_, List.mem_cons_self, rfl, .alias _⟩
  | newType typeName =>
    have closing : (", object)" : Text) = Text.ofString ", object" ++ Text.ofString ")" := rfl
    have binds : BindsName (ModuleName.identifier typeName) _ :=
      .newType (Text.quoted (ModuleName.identifier typeName) ++ Text.ofString ", object")
    refine ⟨_, List.mem_cons_self, rfl, ?_⟩
    rw [Statement.text, closing, boundName]
    simpa [Text.concat] using binds

end Statement

/-- A text starts with what stands in front of it. -/
theorem Text.startsWith_lead (lead rest : Text) :
    Text.startsWith (lead ++ rest) lead = true := by
  induction lead with
  | nil => cases rest <;> rfl
  | cons c lead inductionHypothesis => simp [Text.startsWith, inductionHypothesis]

/-- The class of the runtime that a base class is made from. -/
def BaseClass.runtime? : BaseClass → Option Text
  | lookup _ => some "Resolver"
  | computation _ => some "FieldResolver"
  | protocol | enumeration => none

/-- The classes of the runtime that contracts are declared under. -/
def Statement.contractBases : List Text := ["Resolver", "FieldResolver"]

/-- What stands behind the name of a class tells which class of the runtime it is derived from. -/
theorem BaseClass.startsWith_iff (derived : BaseClass) : ∀ base ∈ Statement.contractBases,
    Text.startsWith (Text.concat ["(", derived.text, "):"])
      (Text.concat ["(_runtime.", base, "["]) = true ↔ derived.runtime? = some base := by
  have lead (base behind : Text) : Text.startsWith
      (Text.concat ["(_runtime.", base, "["] ++ (behind ++ Text.ofString "):"))
        (Text.concat ["(_runtime.", base, "["]) = true := Text.startsWith_lead _ _
  have other : some (Text.ofString "FieldResolver") ≠ some "Resolver" := by decide
  have missing (base : Text) : none ≠ some base := nofun
  refine List.forall_mem_cons.mpr ⟨?_, List.forall_mem_singleton.mpr ?_⟩
  · cases derived with
    | protocol | enumeration => exact iff_of_false Bool.false_ne_true (missing _)
    | lookup typeName =>
      have taken := lead "Resolver" (ModuleName.identifier typeName ++ Text.ofString "]")
      exact iff_of_true taken rfl
    | computation => exact iff_of_false Bool.false_ne_true other
  · cases derived with
    | protocol | enumeration => exact iff_of_false Bool.false_ne_true (missing _)
    | lookup => exact iff_of_false Bool.false_ne_true other.symm
    | computation type =>
      have taken := lead "FieldResolver" (Text.quoted type.annotation ++ Text.ofString "]")
      exact iff_of_true taken rfl

namespace Statement

/-- The class that a statement declares under a class of the runtime. -/
def contract? (base : Text) : Statement → Option Text
  | subclass name derived _ _ => if derived.runtime? = some base then some name else none
  | record .. | union .. | newType _ => none

/-- The head of a class tells its name and whether it is a contract. -/
theorem contractClass?_head {name rest : Text} (named : ∀ c ∈ name, c.isNameRest = true)
    (ends : Halts CodePoint.isNameRest rest) (base : Text) :
    contractClass? base ⟨0, "class " ++ (name ++ rest)⟩ =
      if Text.startsWith rest (Text.concat ["(_runtime.", base, "["]) then some name else none := by
  have whole := List.takeWhile_eq_self_iff.mpr named
  have taken := ends.takeWhile_append name
  have dropped := ends.dropWhile_append name
  rw [whole] at taken dropped
  rw [contractClass?, if_pos rfl, Text.after?_lead, Option.bind_some, taken, dropped]

/-- Nothing in a body is at the margin. -/
theorem contractClasses_bodyLines (base doc : Text) (members : List ClassMember) :
    contractClasses base (bodyLines doc members) = [] := by
  refine List.filterMap_eq_nil_iff.mpr ?_
  have indented : ∀ line ∈ bodyLines doc members, line.indent = indentWidth := by
    simp [bodyLines]
  intro line member
  rw [contractClass?, if_neg (by rw [indented line member]; decide)]

/-- What a first line declares, and what the others do. -/
theorem contractClasses_cons (base : Text) (line : LogicalLine) (lines : List LogicalLine) :
    ModuleSyntax.contractClasses base (line :: lines) =
      (contractClass? base line).toList ++ ModuleSyntax.contractClasses base lines := by
  cases found : contractClass? base line <;> simp [ModuleSyntax.contractClasses, found]

/-- The contracts that a proper statement declares can be read off its lines. -/
theorem Proper.contractClasses {statement : Statement} (proper : statement.Proper) :
    ∀ base ∈ contractBases,
      ModuleSyntax.contractClasses base statement.lines = (statement.contract? base).toList := by
  have single {text : Text} (code : CodeLine text) (base : Text) :
      ModuleSyntax.contractClasses base [⟨0, text⟩] = [] := by
    rw [contractClasses_cons, code.statement.contractClass?_eq]
    rfl
  cases proper with
  | @record typeName doc members bound =>
    have colon : Halts CodePoint.isNameRest ":" := .cons (by decide)
    have head := contractClass?_head (isNameRest_of_isName bound.1.1) colon
    refine List.forall_mem_cons.mpr ⟨?_, List.forall_mem_singleton.mpr ?_⟩
    all_goals
      rw [lines, contractClasses_cons, contractClasses_cons, contractClasses_bodyLines]
      exact congrArg (fun found => Option.toList found ++ []) (head _)
  | @subclass name doc derived members bound proper =>
    have opening : Halts CodePoint.isNameRest (Text.concat ["(", derived.text, "):"]) :=
      .cons (by decide)
    have head := contractClass?_head (isNameRest_of_isName bound.1.1) opening
    intro base known
    have first := (head base).trans (if_congr (derived.startsWith_iff base known) rfl rfl)
    rw [lines, contractClasses_cons, contractClasses_bodyLines, List.append_nil, contract?]
    exact congrArg Option.toList first
  | @union typeName types bound =>
    intro base known
    have none := single (codeLine_alias types bound) base
    cases types <;> exact none
  | newType bound => exact fun base _ => single (codeLine_newType bound) base

/-- So can those of proper statements one behind the other. -/
theorem contractClasses_lines {statements : List Statement}
    (proper : ∀ statement ∈ statements, statement.Proper) : ∀ base ∈ contractBases,
      ModuleSyntax.contractClasses base (statements.flatMap lines) =
        statements.filterMap (contract? base) := by
  intro base known
  induction statements with
  | nil => rfl
  | cons statement statements inductionHypothesis =>
    obtain ⟨first, others⟩ := List.forall_mem_cons.mp proper
    have here := first.contractClasses base known
    have further := inductionHypothesis others
    rw [ModuleSyntax.contractClasses] at here further ⊢
    rw [List.flatMap_cons, List.filterMap_append, here, further]
    cases found : statement.contract? base <;> simp [found]

/-- None of the lines of a statement is a condition. -/
theorem Proper.unconditional {statement : Statement} (proper : statement.Proper) :
    ∀ line ∈ statement.lines, line ≠ checkCondition := by
  have indented (doc : Text) (members : List ClassMember) :
      ∀ line ∈ bodyLines doc members, line ≠ checkCondition := by
    have deeper : ∀ line ∈ bodyLines doc members, line.indent = indentWidth := by
      simp [bodyLines]
    intro line member same
    have indent := deeper line member
    rw [same] at indent
    exact absurd indent (by decide)
  have other {c : CodePoint} {rest : Text} (unlike : c ≠ 'i') :
      (⟨0, c :: rest⟩ : LogicalLine) ≠ checkCondition := by
    intro same
    exact unlike (List.cons.inj (LogicalLine.mk.inj same).2).1
  cases proper with
  | record =>
    exact List.forall_mem_cons.mpr ⟨other (by decide),
      List.forall_mem_cons.mpr ⟨other (by decide), indented _ _⟩⟩
  | subclass => exact List.forall_mem_cons.mpr ⟨other (by decide), indented _ _⟩
  | @union typeName types bound =>
    have alone : ∀ line ∈ [LogicalLine.mk 0 (Statement.union typeName types).text],
        line ≠ checkCondition :=
      List.forall_mem_singleton.mpr ((codeLine_alias types bound).statement.ne_checkCondition 0)
    cases types <;> exact alone
  | newType bound =>
    exact List.forall_mem_singleton.mpr ((codeLine_newType bound).statement.ne_checkCondition 0)

/-- The first line of a statement is at the margin. -/
theorem lines_margin (statement : Statement) :
    ∃ line rest, statement.lines = line :: rest ∧ line.indent = 0 := by
  cases statement with
  | record | subclass | newType => exact ⟨_, _, rfl, rfl⟩
  | union typeName types => cases types <;> exact ⟨_, _, rfl, rfl⟩

end Statement

end SchemaForge

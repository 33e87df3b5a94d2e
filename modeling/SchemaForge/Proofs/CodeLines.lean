import Mathlib.Data.List.Forall2
import SchemaForge.Proofs.LiteralSnippets
import SchemaForge.Proofs.ModuleGrammar
import SchemaForge.Proofs.WordStarts

/-!
# Lines of code

What a generator writes has to be right for both stages of reading: it stays on its line, and it
is an expression or a statement of the grammar. Both are said together of a text here, so that
each form of expression or statement is looked at once. A line that is a statement, and is
neither indented nor marked in front, is read as that line; so is a literal between triple
quotes.
-/

namespace SchemaForge

open LogicalLine ModuleSyntax

/-! ## Lines of texts -/

/-- The logical lines of a text whose last line is to be ended behind it. -/
def Lined (text : Text) (lines : List LogicalLine) : Prop :=
  Takes {} (text ++ [.lineFeed]) {} lines

namespace Lined

variable {text front back : Text} {lines more : List LogicalLine}

/-- The lines of a text are read. -/
theorem ofText (lined : Lined text lines) : LogicalLine.ofText text = some lines :=
  ofText_of_takes lined

/-- An empty line is none. -/
theorem empty : Lined [] [] := rfl

/-- One text behind another on new lines. -/
theorem append (first : Lined front lines) (second : Lined back more) :
    Lined (front ++ .lineFeed :: back) (lines ++ more) := by
  have whole := Takes.append first second
  rwa [List.append_assoc, List.singleton_append, ← List.cons_append, ← List.append_assoc] at whole

/-- Nothing is read in an empty line in front. -/
theorem behindEmpty (lined : Lined text lines) : Lined (.lineFeed :: text) lines :=
  append empty lined

/-- An empty line behind a text adds nothing. -/
theorem ended (lined : Lined text lines) : Lined (text ++ [.lineFeed]) lines := by
  have whole := append lined empty
  rwa [List.append_nil] at whole

/-- Empty lines in front are not read either. -/
theorem behindFeeds (lined : Lined text lines) (count : Nat) :
    Lined (List.replicate count .lineFeed ++ text) lines := by
  induction count with
  | zero => exact lined
  | succ count inductionHypothesis => exact inductionHypothesis.behindEmpty

/-- Texts on new lines, with any number of empty lines between them. -/
theorem join (empties : Nat) {texts : List Text} {read : List (List LogicalLine)}
    (each : List.Forall₂ Lined texts read) :
    Lined (Text.join (List.replicate (empties + 1) .lineFeed) texts) read.flatten := by
  induction each with
  | nil => exact empty
  | @cons text lines texts read first others inductionHypothesis =>
    cases others with
    | nil => simpa [Text.join] using first
    | cons second further =>
      rw [Text.join_cons _ _ (List.cons_ne_nil _ _), List.append_assoc, List.flatten_cons]
      exact first.append (inductionHypothesis.behindFeeds empties)

end Lined

/-- Blanks indent a line that begins behind them. -/
theorem takes_blanks (indent : Nat) {c : CodePoint} {rest : Text} (begins : c ≠ ' ')
    {last : Reader} {lines : List LogicalLine}
    (reads : Takes (Reader.turn { indent := indent } (.code none)) (c :: rest) last lines) :
    Takes {} (Text.blanks indent ++ c :: rest) last lines := by
  have margin : ∀ count from_ : Nat, Takes (Reader.turn {} (.margin from_)) (Text.blanks count)
      (Reader.turn {} (.margin (from_ + count))) [] := by
    intro count
    induction count with
    | zero => exact fun from_ => takes_nil _
    | succ count inductionHypothesis =>
      intro from_
      have further := inductionHypothesis (from_ + 1)
      rw [Nat.add_right_comm] at further
      have taken : (Reader.turn {} (.margin from_)).step ' ' =
          some (Reader.turn {} (.margin (from_ + 1)), []) := rfl
      exact .cons taken further
  have same : (Reader.turn {} (.margin (0 + indent))).step c =
      (Reader.turn { indent := indent } (.code none)).step c := by
    by_cases source : isSource c = true
    · rw [step_code source, Reader.step, if_pos source, Nat.zero_add]
      exact if_neg begins
    · rw [Reader.step, Reader.step, if_neg source, if_neg source]
  have behind : Takes (Reader.turn {} (.margin (0 + indent))) (c :: rest) last lines := by
    unfold Takes at reads ⊢
    rw [Reader.run, same]
    exact reads
  exact (margin indent 0).append behind

/-- A snippet that does not begin with a blank is the line that it stands on. -/
theorem lined_snippet {text : Text} (snippet : Snippet text) {c : CodePoint} {rest : Text}
    (split : text = c :: rest) (begins : c ≠ ' ') (indent : Nat) :
    Lined (Text.blanks indent ++ text) [⟨indent, text⟩] := by
  obtain ⟨closed, reads⟩ := snippet { indent := indent }
  have feed : ((Reader.put { indent := indent } text).turn (.code closed)).step .lineFeed =
      some ({}, [⟨indent, text⟩]) := by
    rw [step_code (by decide), split]
    rfl
  have whole := reads.append (.cons feed (takes_nil _))
  rw [split] at whole
  rw [Lined, List.append_assoc, split]
  exact takes_blanks indent begins whole

/-! ## Literals between triple quotes -/

/-- Three quotes open a literal. -/
theorem takes_tripleQuote (reader : Reader) :
    Takes (reader.turn (.code none)) tripleQuote
      ((reader.put tripleQuote).turn (.long .quote 0)) [] := by
  have source : isSource .quote = true := by decide
  have first : (reader.turn (.code none)).step .quote =
      some ((reader.put [.quote]).turn (.short .quote false), []) := step_code source reader none
  have second : ((reader.put [.quote]).turn (.short .quote false)).step .quote =
      some (((reader.put [.quote]).put [.quote]).turn (.code (some .quote)), []) :=
    step_short source (reader.put [.quote]) false
  have third : (((reader.put [.quote]).put [.quote]).turn (.code (some .quote))).step .quote =
      some ((((reader.put [.quote]).put [.quote]).put [.quote]).turn (.long .quote 0), []) :=
    step_code source ((reader.put [.quote]).put [.quote]) (some .quote)
  have whole := Takes.cons first (.cons second (.cons third (takes_nil _)))
  rw [put_put, put_put] at whole
  exact whole

/-- A docstring of code points that a source text may have is a snippet. -/
theorem snippet_docstring {text : Text} (literal : IsDocstring text)
    (source : ∀ c ∈ text, isSource c = true) : Snippet text := by
  obtain ⟨-, said, behind, read, empty⟩ := literal
  obtain ⟨rest, opened, inside⟩ := Option.bind_eq_some_iff.mp read
  obtain rfl := Text.eq_append_of_after? opened
  obtain ⟨body, rfl, reads⟩ := takes_literalBody rest
    (fun c member => source c (List.mem_append_right _ member)) (show 0 < 3 by decide) inside
  intro reader
  have long := (takes_tripleQuote reader).append (reads (reader.put tripleQuote))
  rw [put_put] at long
  obtain rfl | rfl := empty
  · rw [List.append_nil]
    exact ⟨none, long⟩
  · have first := step_code (c := .quote) (by decide) (reader.put (tripleQuote ++ body)) none
    have second : (((reader.put (tripleQuote ++ body)).put [.quote]).turn
        (.short .quote false)).step .quote =
          some ((((reader.put (tripleQuote ++ body)).put [.quote]).put [.quote]).turn
            (.code (some .quote)), []) :=
      step_short (by decide) ((reader.put (tripleQuote ++ body)).put [.quote]) false
    have whole := long.append (.cons first (.cons second (takes_nil _)))
    rw [put_put, put_put] at whole
    rw [List.append_assoc] at whole
    exact ⟨some .quote, whole⟩

/-! ## Expressions -/

/-- What is read as a constant is an expression. -/
theorem expression_of_constant {text : Text} {constant : Constant}
    (means : Constant.Says text constant) : Expression text := by
  have read := means.reads [] .nil
  rw [List.append_nil] at read
  exact .constant (by rw [Constant.ofLiteral, read])

/-- An expression that stays on its line. -/
structure Coded (text : Text) : Prop where
  /-- It is an expression of the grammar. -/
  expression : Expression text
  /-- A reader in code is in code behind it. -/
  snippet : Snippet text
  /-- No line ends in it. -/
  line : text.OnOneLine

/-- What names are made of ends no line. -/
theorem onOneLine_of_isNameRest {text : Text} (named : ∀ c ∈ text, c.isNameRest = true) :
    text.OnOneLine := by
  intro c member
  refine Constant.not_isLineEnd_of_isWordUnit ?_
  simp [Constant.isWordUnit, named c member]

/-- A name of the schema language consists of what names consist of. -/
theorem isNameRest_of_isName {name : Text} (named : name.isName = true) :
    ∀ c ∈ name, c.isNameRest = true := by
  simp only [Text.isName, Bool.and_eq_true, List.all_eq_true] at named
  exact named.2

/-- The identifier of a name can be used. -/
theorem isIdentifier_identifier {name : Text} (named : name.isName = true) :
    IsIdentifier (ModuleName.identifier name) := by
  refine ⟨?_, ModuleName.identifier_not_reserved name⟩
  have all := ModuleName.identifier_all (isNameRest_of_isName named)
  rw [Text.isName, Bool.and_eq_true, List.all_eq_true]
  refine ⟨?_, all⟩
  rw [Text.isName, Bool.and_eq_true] at named
  cases name with
  | nil => cases named.1
  | cons c rest =>
    unfold ModuleName.identifier
    split <;> exact named.1

/-- So can what a type is called in annotations. -/
theorem isIdentifier_annotationName {name : Text} (named : name.isName = true) :
    IsIdentifier (annotationName name) := by
  cases scalar : isBuiltinScalar name with
  | true =>
    have builtins : ∀ scalar ∈ builtinScalars, IsIdentifier scalar.2 := by decide +kernel
    exact builtins _ (annotationName_builtin scalar)
  | false =>
    rw [annotationName_foreign scalar]
    exact isIdentifier_identifier named

/-- An identifier is a dotted name. -/
theorem isDottedName_identifier {name : Text} (identifier : IsIdentifier name) :
    IsDottedName name :=
  ⟨[name], List.cons_ne_nil name [], List.forall_mem_singleton.mpr identifier, rfl⟩

/-- The names in modules that are not of the schema: what is built in, what the library and the
runtime call their own, and the one constant that every class of a computed field has. -/
def libraryNames : List Text :=
  ["list", "object", "str", "tuple", "dataclasses", "_dataclasses", "dataclass", "field",
    "kw_only", "default_factory", "enum", "Enum", "typing", "NewType", "Protocol", "TypeAlias",
    "Union", "TYPE_CHECKING", "apigen", "runtime", "_runtime", "Resolver", "FieldResolver",
    "ARGUMENTS"]

/-- They can be bound. -/
theorem canBind_library : ∀ name ∈ libraryNames, CanBind name := by decide +kernel

/-- So they are dotted names. -/
theorem isDottedName_library {name : Text} (listed : name ∈ libraryNames) : IsDottedName name :=
  isDottedName_identifier (canBind_library name listed).1

/-- So are two of them with a dot between them. -/
theorem isDottedName_pair (name member : Text) (listed : name ∈ libraryNames)
    (inside : member ∈ libraryNames) : IsDottedName (Text.concat [name, ".", member]) := by
  refine ⟨[name, member], List.cons_ne_nil _ _, ?_, by simp [Text.concat, Text.join]⟩
  exact List.forall_mem_cons.mpr ⟨(canBind_library name listed).1,
    List.forall_mem_singleton.mpr (canBind_library member inside).1⟩

namespace Coded

variable {text : Text}

/-- An identifier is an expression. -/
theorem identifier {name : Text} (usable : IsIdentifier name) : Coded name where
  expression := .path (isDottedName_identifier usable)
  snippet := .plain (fun c member => isPlain_of_isNameRest (isNameRest_of_isName usable.1 c member))
  line := onOneLine_of_isNameRest (isNameRest_of_isName usable.1)

/-- So is a name that is not of the schema. -/
theorem library {name : Text} (listed : name ∈ libraryNames) : Coded name :=
  .identifier (canBind_library name listed).1

/-- A quoted text is an expression. -/
theorem quoted (text : Text) : Coded (Text.quoted text) where
  expression := expression_of_constant (Constant.says_quoted text)
  snippet := snippet_quoted text
  line := Text.quoted_onOneLine text

/-- The literal of a value is an expression. -/
theorem literal {value : Value} (numeric : value.Numeric) : Coded value.literal where
  expression := expression_of_constant (value.literal_says numeric)
  snippet := snippet_literal value numeric
  line := (value.literal_says numeric).line

/-- Nothing is an expression. -/
theorem none : Coded "None" where
  expression := expression_of_constant Constant.says_none
  snippet := snippet_none
  line := by decide

/-- Expressions with a comma between them are on one line, and no reader is lost in them. -/
theorem items {items : List Text} (coded : ∀ item ∈ items, Coded item) :
    Snippet (Text.join ", " items) ∧ (Text.join ", " items).OnOneLine := by
  refine ⟨.join (by decide) (by decide) (fun item member => (coded item member).snippet), ?_⟩
  induction items with
  | nil => exact List.forall_mem_nil _
  | cons item items inductionHypothesis =>
    obtain ⟨first, others⟩ := List.forall_mem_cons.mp coded
    cases items with
    | nil => exact first.line
    | cons next items =>
      rw [Text.join_cons _ _ (List.cons_ne_nil next items)]
      exact (first.line.append (by decide)).append (inductionHypothesis others)

/-- An expression is subscripted by others. -/
theorem subscript {path : Text} {items : List Text} (dotted : IsDottedName path)
    (plain : ∀ c ∈ path, isPlain c = true) (line : path.OnOneLine) (some : items ≠ [])
    (coded : ∀ item ∈ items, Coded item) :
    Coded (Text.concat [path, "[", Text.join ", " items, "]"]) where
  expression := .subscript dotted some (fun item member => (coded item member).expression)
  snippet := by
    simpa [Text.concat] using Snippet.behind plain (Coded.items coded).1.subscripted
  line := by
    simpa [Text.concat] using line.append
      (Text.OnOneLine.append (by decide) ((Coded.items coded).2.append (by decide)))

/-- Something is called with arguments. -/
theorem call {path arguments : Text} (dotted : IsDottedName path)
    (plain : ∀ c ∈ path, isPlain c = true) (line : path.OnOneLine) (given : CallArguments arguments)
    (snippet : Snippet arguments) (inLine : arguments.OnOneLine) :
    Coded (Text.concat [path, "(", arguments, ")"]) where
  expression := .call dotted given
  snippet := by
    simpa [Text.concat] using Snippet.behind plain snippet.parenthesized
  line := by
    simpa [Text.concat] using line.append
      (Text.OnOneLine.append (by decide) (inLine.append (by decide)))

/-- An annotation of a type with a proper name is an expression. -/
theorem annotated {type : TypeReference} (named : type.innermost.name.isName = true) :
    Coded type.annotation := by
  have marked {text : Text} (coded : Expression text) (nullable : Bool) :
      Expression (text ++ nullMark nullable) := by
    cases nullable with
    | false => simpa [nullMark] using coded
    | true =>
      have either := Expression.alternative coded Coded.none.expression
      simpa [Text.concat, nullMark, Text.ofString] using either
  have markedLine (nullable : Bool) : (nullMark nullable).OnOneLine := by
    cases nullable <;> decide
  have both (nullable : Bool) :
      Expression (type.annotationWhen nullable) ∧ (type.annotationWhen nullable).OnOneLine := by
    induction type generalizing nullable with
    | named type =>
      have name := Coded.identifier (isIdentifier_annotationName named)
      have whole : (TypeReference.named type).annotationWhen nullable =
          annotationName type.name ++ nullMark nullable := by
        simp [TypeReference.annotationWhen, Text.concat]
      rw [whole]
      exact ⟨marked name.expression nullable, name.line.append (markedLine nullable)⟩
    | list element span inductionHypothesis =>
      obtain ⟨expression, line⟩ := inductionHypothesis named true
      have listed : IsDottedName "list" := isDottedName_library (by simp [libraryNames])
      constructor
      · have whole := marked (.subscript listed (List.cons_ne_nil _ [])
          (List.forall_mem_singleton.mpr expression)) nullable
        simpa [TypeReference.annotationWhen, Text.concat, Text.join, Text.ofString] using whole
      · have opening : Text.OnOneLine "list[" := by decide
        have closing : Text.OnOneLine "]" := by decide
        have whole := opening.append (line.append (closing.append (markedLine nullable)))
        simpa [TypeReference.annotationWhen, Text.concat] using whole
    | nonNull inner span inductionHypothesis => exact inductionHypothesis named false
  exact ⟨(both true).1, snippet_annotation named true, (both true).2⟩

end Coded

/-! ## Statements on a line -/

/-- A statement that stays on its line and begins like a name. -/
structure CodeLine (text : Text) : Prop where
  /-- It is a statement of the grammar. -/
  statement : SimpleStatement text
  /-- A reader in code is in code behind it. -/
  snippet : Snippet text
  /-- No line ends in it. -/
  line : text.OnOneLine
  /-- It begins like a name. -/
  begins : text.head?.any CodePoint.isNameStart = true

namespace CodeLine

variable {name type value text : Text}

/-- A name in front of an expression. -/
theorem named (bound : CanBind name) {sign : Text} (plain : ∀ c ∈ sign, isPlain c = true)
    (signLine : sign.OnOneLine) (behind : Snippet text) (line : text.OnOneLine)
    (statement : SimpleStatement (name ++ (sign ++ text))) :
    CodeLine (name ++ (sign ++ text)) where
  statement := statement
  snippet := .behind
    (fun c member => isPlain_of_isNameRest (isNameRest_of_isName bound.1.1 c member))
    (.behind plain behind)
  line := (Coded.identifier bound.1).line.append (signLine.append line)
  begins := by
    have named := bound.1.1
    rw [Text.isName, Bool.and_eq_true] at named
    cases name with
    | nil => cases named.1
    | cons c rest => exact named.1

/-- A name that is declared with a type. -/
theorem declared (bound : CanBind name) (coded : Coded type) :
    CodeLine (Text.concat [name, ": ", type]) := by
  have statement := SimpleStatement.declared bound coded.expression
  have whole : Text.concat [name, ": ", type] = name ++ (": " ++ type) := by simp [Text.concat]
  rw [whole] at statement ⊢
  exact named bound (by decide) (by decide) coded.snippet coded.line statement

/-- A name that is declared with a type and a value. -/
theorem initialized (bound : CanBind name) (coded : Coded type) (initial : Coded value) :
    CodeLine (Text.concat [name, ": ", type, " = ", value]) := by
  have statement := SimpleStatement.initialized bound coded.expression initial.expression
  have whole : Text.concat [name, ": ", type, " = ", value] =
      name ++ (": " ++ (type ++ (" = " ++ value))) := by simp [Text.concat]
  rw [whole] at statement ⊢
  have second : Snippet (" = " ++ value) := .behind (by decide) initial.snippet
  exact named bound (by decide) (by decide)
    (coded.snippet.append second (.cons (by decide)))
    (coded.line.append (.append (by decide) initial.line)) statement

/-- A name that a value is assigned to. -/
theorem assigned (bound : CanBind name) (coded : Coded value) :
    CodeLine (Text.concat [name, " = ", value]) := by
  have statement := SimpleStatement.assigned bound coded.expression
  have whole : Text.concat [name, " = ", value] = name ++ (" = " ++ value) := by
    simp [Text.concat]
  rw [whole] at statement ⊢
  exact named bound (by decide) (by decide) coded.snippet coded.line statement

/-- A line of code is read as it stands. -/
theorem lined (code : CodeLine text) (indent : Nat) :
    Lined (Text.blanks indent ++ text) [⟨indent, text⟩] := by
  obtain ⟨-, snippet, -, begins⟩ := code
  cases text with
  | nil => cases begins
  | cons c rest =>
    refine lined_snippet snippet rfl ?_ indent
    rintro rfl
    cases begins

end CodeLine

end SchemaForge

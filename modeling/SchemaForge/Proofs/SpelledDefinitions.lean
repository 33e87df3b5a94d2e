import SchemaForge.Proofs.DeclaredNames
import SchemaForge.Proofs.PackageStrings
import SchemaForge.Proofs.StatementLines

/-!
# Definitions whose statements can be written

The statements of a module are proper if the names of its definition are spelled like names, its
numbers like numbers, and what it describes can be said. The first two are so for every definition
that is read from a text, because names and numbers are tokens of the text. The third is not, and
neither is it so that every name can be bound: a field may be called like the one constant that
the generated language lets nobody bind. What a definition has to keep to is said here, and from
it follows that each of its statements is proper.
-/

namespace SchemaForge

open LogicalLine ModuleSyntax

/-! ## Spelling -/

/-- A node all of whose names are spelled like names and all of whose numbers like numbers. -/
structure SyntaxNode.Spelled (root : SyntaxNode) : Prop where
  /-- Every name in it is one. -/
  names : ∀ node, Inside node root → ∀ name, Piece.name name ∈ Piece.ofNode node →
    name.isName = true
  /-- Every number in it is one. -/
  numbers : ∀ value, Inside (.value value) root → value.Numeric

/-- One of the tokens of a node is a word that is a piece of the node. -/
theorem Fits.word {located : List Token → SyntaxNode → Prop} {tokens : List Token}
    {pieces : List Piece} {reading : Reading} (fits : Fits located tokens pieces)
    (member : Piece.word reading ∈ pieces) : ∃ token ∈ tokens, token.reading = reading := by
  induction fits with
  | done => cases member
  | @token first tokens piece pieces admits _ inductionHypothesis =>
    obtain rfl | member := List.mem_cons.mp member
    · exact ⟨first, List.mem_cons_self, admits⟩
    · obtain ⟨token, listed, reads⟩ := inductionHypothesis member
      exact ⟨token, List.mem_cons_of_mem first listed, reads⟩
  | absent _ inductionHypothesis =>
    obtain marked | member := List.mem_cons.mp member
    · cases marked
    · exact inductionHypothesis member
  | present _ inductionHypothesis =>
    obtain marked | member := List.mem_cons.mp member
    · cases marked
    · obtain ⟨token, listed, reads⟩ := inductionHypothesis member
      exact ⟨token, List.mem_append_right _ listed, reads⟩
  | node _ _ inductionHypothesis =>
    obtain marked | member := List.mem_cons.mp member
    · cases marked
    · obtain ⟨token, listed, reads⟩ := inductionHypothesis member
      exact ⟨token, List.mem_append_right _ listed, reads⟩

/-- The definitions of a text are spelled properly. -/
theorem parseDocument_spelled {text : Text} {definitions : List Definition}
    (parsed : parseDocument text = .ok definitions) {definition : Definition}
    (member : definition ∈ definitions) : SyntaxNode.Spelled (.definition definition) := by
  obtain ⟨body, finish, scanned, -, -, covers⟩ := parseDocument_located parsed
  refine ⟨?_, fun value inside => parseDocument_numeric parsed member inside⟩
  intro node inside name piece
  obtain ⟨part, covered, ⟨fits, -, -, -⟩⟩ := covers definition member node inside
  obtain ⟨token, listed, reads⟩ := fits.word piece
  obtain ⟨kind, rfl⟩ := Prod.mk.inj reads
  obtain ⟨others, last, split, -, named⟩ := scan_names scanned
  obtain ⟨rfl, -⟩ := List.append_singleton_inj.mp split
  exact named token (List.mem_of_mem_filter (covered.subset listed)) kind

/-- So is what a run registers. -/
theorem loadedRegistry_spelled {references schemas : List (Text × Text)} {defaultPackage : Text} :
    ∀ entry ∈ (loadedRegistry references schemas defaultPackage).entries,
      SyntaxNode.Spelled (.definition entry.definition) := by
  intro entry member
  obtain ⟨-, text, definitions, parsed, defined⟩ := loadedRegistry_parsed entry member
  exact parseDocument_spelled parsed defined

/-- A node of a list stands between parentheses. -/
theorem Piece.mem_parenthesized {α : Type} (kind : α → SyntaxNode) {values : List α} {value : α}
    (member : value ∈ values) : Piece.node (kind value) ∈ parenthesized (nodes kind values) := by
  have listed : Piece.node (kind value) ∈ nodes kind values := List.mem_map_of_mem member
  cases values with
  | nil => cases member
  | cons first others => exact List.mem_cons_of_mem _ (List.mem_append_left _ listed)

/-- It stands between braces as well. -/
theorem Piece.mem_braced {α : Type} (kind : α → SyntaxNode) {values : List α} {value : α}
    (member : value ∈ values) : Piece.node (kind value) ∈ braced (nodes kind values) := by
  have listed : Piece.node (kind value) ∈ nodes kind values := List.mem_map_of_mem member
  cases values with
  | nil => cases member
  | cons first others => exact List.mem_cons_of_mem _ (List.mem_append_left _ listed)

namespace SyntaxNode.Spelled

variable {root node : SyntaxNode}

/-- A node inside is spelled as well. -/
theorem inside (spelled : root.Spelled) (inner : Inside node root) : node.Spelled :=
  ⟨fun other found => spelled.names other (found.trans inner),
    fun value found => spelled.numbers value (found.trans inner)⟩

/-- So is a node among the pieces of a node. -/
theorem piece (spelled : root.Spelled) (member : Piece.node node ∈ Piece.ofNode root) :
    node.Spelled :=
  spelled.inside (.child .itself (List.mem_filterMap.mpr ⟨_, member, rfl⟩))

/-- A name among the pieces is one. -/
theorem name {text : Text} (spelled : root.Spelled) (member : Piece.name text ∈ Piece.ofNode root) :
    text.isName = true :=
  spelled.names root .itself text member

/-- The type inside all layers of a spelled type has a name. -/
theorem innermost {type : TypeReference} (spelled : SyntaxNode.Spelled (.type type)) :
    type.innermost.name.isName = true := by
  induction type with
  | named type => exact spelled.name List.mem_cons_self
  | list element span inductionHypothesis =>
    exact inductionHypothesis (spelled.piece (List.mem_cons_of_mem _ List.mem_cons_self))
  | nonNull inner span inductionHypothesis =>
    exact inductionHypothesis (spelled.piece List.mem_cons_self)

/-- A spelled field has a name and a type with a name, and so have its arguments. -/
theorem field {field : Field} (spelled : SyntaxNode.Spelled (.field field)) :
    field.name.isName = true ∧ field.type.innermost.name.isName = true ∧
      ∀ argument ∈ field.arguments, SyntaxNode.Spelled (.inputValue argument) := by
  refine ⟨spelled.name (by simp [Piece.ofNode]), innermost (spelled.piece (by simp [Piece.ofNode])),
    fun argument member => spelled.piece ?_⟩
  have inside := Piece.mem_parenthesized .inputValue member
  simp [Piece.ofNode, inside]

/-- A spelled input value has a name, a type with a name, and a default that is spelled. -/
theorem inputValue {value : InputValue} (spelled : SyntaxNode.Spelled (.inputValue value)) :
    value.name.isName = true ∧ value.type.innermost.name.isName = true ∧
      ∀ default ∈ value.defaultValue, default.Numeric := by
  refine ⟨spelled.name (by simp [Piece.ofNode]), innermost (spelled.piece (by simp [Piece.ofNode])),
    fun default given => ?_⟩
  have inside : SyntaxNode.Spelled (.value default) := by
    refine spelled.piece ?_
    simp [Piece.ofNode, Option.mem_def.mp given, Piece.nodes, Piece.introduced]
  exact inside.numbers default .itself

/-- A spelled type with fields has a name, and its fields are spelled. -/
theorem fielded {keyword : Text} {type : FieldedType} (spelled : root.Spelled)
    (pieces : Piece.ofNode root = Piece.ofFielded keyword type) :
    type.name.isName = true ∧ ∀ field ∈ type.fields, SyntaxNode.Spelled (.field field) := by
  refine ⟨spelled.name (by simp [pieces, Piece.ofFielded]), fun field member => spelled.piece ?_⟩
  simp [pieces, Piece.ofFielded, Piece.mem_braced SyntaxNode.field member]

/-- A spelled input type has a name, and its fields are spelled. -/
theorem inputType {type : InputType}
    (spelled : SyntaxNode.Spelled (.definition (.inputObject type))) :
    type.name.isName = true ∧ ∀ field ∈ type.fields, SyntaxNode.Spelled (.inputValue field) := by
  refine ⟨spelled.name (by simp [Piece.ofNode, Piece.ofDefinition]),
    fun field member => spelled.piece ?_⟩
  simp [Piece.ofNode, Piece.ofDefinition, Piece.mem_braced SyntaxNode.inputValue member]

/-- A spelled enumeration has a name, and so have its values. -/
theorem enumType {type : EnumType} (spelled : SyntaxNode.Spelled (.definition (.enum type))) :
    type.name.isName = true ∧ ∀ value ∈ type.values, value.name.isName = true := by
  refine ⟨spelled.name (by simp [Piece.ofNode, Piece.ofDefinition]), fun value member => ?_⟩
  have inside : SyntaxNode.Spelled (.enumMember value) := by
    refine spelled.piece ?_
    simp [Piece.ofNode, Piece.ofDefinition, Piece.mem_braced SyntaxNode.enumMember member]
  exact inside.name (by simp [Piece.ofNode])

end SyntaxNode.Spelled

/-- A definition of a type that is spelled properly has a name. -/
theorem Definition.typeName_spelled {definition : Definition}
    (spelled : SyntaxNode.Spelled (.definition definition)) (defines : definition.DefinesType) :
    definition.typeName.isName = true := by
  cases definition with
  | object type => exact (spelled.fielded rfl).1
  | interface type => exact (spelled.fielded rfl).1
  | inputObject type => exact spelled.inputType.1
  | enum type => exact spelled.enumType.1
  | union type => exact spelled.name (by simp [Piece.ofNode, Piece.ofDefinition, typeName])
  | scalar type => exact spelled.name (by simp [Piece.ofNode, Piece.ofDefinition, typeName])
  | directive _ | schema _ => exact absurd defines (by simp [DefinesType, kind])

/-! ## What is said without a description -/

/-- A text of visible characters of ASCII and blanks, without quotes. -/
def Text.Unquoted (text : Text) : Prop := ∀ c ∈ text, 0x20 ≤ c.val ∧ c.val < 0x80 ∧ c ≠ .quote

namespace Text.Unquoted

variable {text : Text}

instance (text : Text) : Decidable text.Unquoted := by
  unfold Text.Unquoted
  infer_instance

/-- A docstring can say such a text. -/
theorem quotable (unquoted : text.Unquoted) : Quotable text where
  readable := by
    intro c member
    obtain ⟨visible, ascii, -⟩ := unquoted c member
    refine ⟨by omega, ?_⟩
    simp only [CodePoint.isSurrogate, Bool.and_eq_false_iff, decide_eq_false_iff_not]
    exact .inl (by omega)
  closed := by
    refine .inr ?_
    have none : trailingQuotes text = 0 := by
      rw [trailingQuotes, List.length_eq_zero_iff, List.takeWhile_eq_nil_iff]
      intro some last
      refine (unquoted _ ?_).2.2 (of_decide_eq_true last)
      exact List.mem_reverse.mp (List.get_mem _ _)
    rw [none]
    decide

/-- Names are such texts. -/
theorem name (named : ∀ c ∈ text, c.isNameRest = true) : text.Unquoted := by
  intro c member
  obtain ⟨visible, ascii⟩ := visible_of_isNameRest (named c member)
  refine ⟨by omega, ascii, ?_⟩
  rintro rfl
  exact absurd visible (by decide)

/-- Such texts can be put one behind the other. -/
theorem concat {parts : List Text} (each : ∀ part ∈ parts, part.Unquoted) :
    (Text.concat parts).Unquoted := by
  intro c member
  obtain ⟨part, listed, inside⟩ := List.mem_flatten.mp member
  exact each part listed c inside

/-- They can be joined by such a text. -/
theorem join {separator : Text} {parts : List Text} (between : separator.Unquoted)
    (each : ∀ part ∈ parts, part.Unquoted) : (Text.join separator parts).Unquoted := by
  intro c member
  obtain inside | ⟨part, listed, inside⟩ := mem_join member
  · exact between c inside
  · exact each part listed c inside

/-- A name between two such texts. -/
theorem around {front back : Text} (before : front.Unquoted) (behind : back.Unquoted)
    (named : text.isName = true) : (Text.concat [front, text, back]).Unquoted := by
  refine concat ?_
  simp only [List.forall_mem_cons]
  exact ⟨before, name (isNameRest_of_isName named), behind, List.forall_mem_nil _⟩

/-- A type is noted without quotes. -/
theorem notated {type : TypeReference} (named : type.innermost.name.isName = true) :
    type.notated.Unquoted := by
  induction type with
  | named type => exact name (isNameRest_of_isName named)
  | list element span inductionHypothesis =>
    refine concat ?_
    simp only [List.forall_mem_cons]
    exact ⟨by decide, inductionHypothesis named, by decide, List.forall_mem_nil _⟩
  | nonNull inner span inductionHypothesis =>
    have mark : Text.Unquoted "!" := by decide
    exact List.forall_mem_append.mpr ⟨inductionHypothesis named, mark⟩

end Text.Unquoted

/-- A description that can be said, or else what is said without one. -/
theorem quotable_describedOr {description : Option Text} {otherwise : Text}
    (described : ∀ text ∈ description.toList, Quotable text) (unquoted : otherwise.Unquoted) :
    Quotable (Render.describedOr description otherwise) := by
  unfold Render.describedOr
  split
  · exact unquoted.quotable
  · exact unquoted.quotable
  · next text some => exact described _ List.mem_cons_self

/-! ## Readable definitions -/

namespace Definition

/-- The descriptions that a module repeats. -/
def descriptions : Definition → List Text
  | object type =>
    type.description.toList ++ type.computed.flatMap (fun field => field.description.toList)
  | interface type => type.description.toList
  | inputObject type => type.description.toList
  | enum type => type.description.toList
  | union _ | scalar _ | directive _ | schema _ => []

/-- A definition whose module can be read as far as it depends on the definition. -/
structure Readable (definition : Definition) : Prop where
  /-- What it describes can be said. -/
  described : ∀ description ∈ definition.descriptions, Quotable description
  /-- Its names can be bound. -/
  bound : ∀ name ∈ definition.typeName :: definition.storedNames, name ≠ "__debug__"

instance (definition : Definition) : Decidable definition.Readable :=
  decidable_of_iff ((∀ description ∈ definition.descriptions, Quotable description) ∧
    ∀ name ∈ definition.typeName :: definition.storedNames, name ≠ "__debug__")
    ⟨fun both => ⟨both.1, both.2⟩, fun readable => ⟨readable.described, readable.bound⟩⟩

end Definition

/-- The identifier of a name can be bound, except for one. -/
theorem canBind_identifier {name : Text} (named : name.isName = true)
    (other : name ≠ "__debug__") : CanBind (ModuleName.identifier name) := by
  refine ⟨isIdentifier_identifier named, fun same => ?_⟩
  unfold ModuleName.identifier at same
  split at same
  · next reserved =>
    have apart : ∀ keyword ∈ ModuleName.keywords,
        keyword ++ Text.ofString "_" ≠ Text.ofString "__debug__" := by decide +kernel
    exact apart name (by simpa using reserved) same
  · exact other same

/-- What stands behind the type of an attribute is nothing or a value. -/
theorem proper_attribute {name : Text} {type : TypeReference} {default : Option Value}
    (bound : CanBind (ModuleName.identifier name)) (typed : type.innermost.name.isName = true)
    (numeric : ∀ value ∈ default, value.Numeric) :
    (ClassMember.field name type (attributeRest type default)).Proper := by
  cases default with
  | none =>
    unfold attributeRest
    dsimp only
    split
    · exact .declared bound typed
    · exact .initialized bound typed .none
  | some value =>
    have coded := Coded.literal (numeric value rfl)
    unfold attributeRest
    dsimp only
    split
    · have path : IsDottedName "_dataclasses.field" :=
        isDottedName_pair "_dataclasses" "field" (by simp [libraryNames]) (by simp [libraryNames])
      have factory : CanBind "default_factory" := canBind_library _ (by simp [libraryNames])
      have lead : ∀ c ∈ ("default_factory=lambda: " : Text), isPlain c = true := by decide
      have leadLine : Text.OnOneLine "default_factory=lambda: " := by decide
      have arguments : CallArguments ("default_factory=lambda: " ++ value.literal) := by
        have delayed := CallArguments.delayed factory coded.expression
        simpa [Text.concat, Text.ofString] using delayed
      have called := Coded.call path (by decide) (by decide) arguments
        (.behind lead coded.snippet) (leadLine.append coded.line)
      have whole := ClassMember.Proper.initialized bound typed called
      have opening : (" = _dataclasses.field(default_factory=lambda: " : Text) =
          Text.ofString " = " ++ (Text.ofString "_dataclasses.field" ++ (Text.ofString "(" ++
            Text.ofString "default_factory=lambda: ")) := rfl
      rw [opening]
      simpa [Text.concat] using whole
    · exact .initialized bound typed coded

namespace FieldedType

variable {type : FieldedType}

/-- The data class of an object type is proper. -/
theorem recordClass_proper (named : type.name.isName = true)
    (fields : ∀ field ∈ type.fields, SyntaxNode.Spelled (.field field))
    (readable : (Definition.object type).Readable) : type.recordClass.Proper := by
  obtain ⟨described, bound⟩ := readable
  obtain ⟨unlike, members⟩ := List.forall_mem_cons.mp bound
  refine .record (canBind_identifier named unlike) (quotable_describedOr ?_ ?_) ?_
  · exact fun text member => described text (List.mem_append_left _ member)
  · exact .around (by decide) (by decide) named
  · refine List.forall_mem_map.mpr fun field member => ?_
    obtain ⟨spelled, typed, -⟩ := (fields field (List.mem_filter.mp member).1).field
    have other := members field.name (List.mem_map_of_mem member)
    exact proper_attribute (canBind_identifier spelled other) typed (by simp)

/-- The protocol of an interface is proper. -/
theorem protocolClass_proper (named : type.name.isName = true)
    (fields : ∀ field ∈ type.fields, SyntaxNode.Spelled (.field field))
    (readable : (Definition.interface type).Readable) : type.protocolClass.Proper := by
  obtain ⟨described, bound⟩ := readable
  obtain ⟨unlike, members⟩ := List.forall_mem_cons.mp bound
  refine .subclass (canBind_identifier named unlike) trivial (quotable_describedOr described ?_) ?_
  · exact .around (by decide) (by decide) named
  · refine List.forall_mem_map.mpr fun field member => ?_
    obtain ⟨spelled, typed, -⟩ := (fields field (List.mem_filter.mp member).1).field
    have other := members field.name (List.mem_map_of_mem member)
    exact .declared (canBind_identifier spelled other) typed

/-- The class for batch lookup is proper. -/
theorem lookupClass_proper (named : type.name.isName = true) : type.lookupClass.Proper := by
  have unquoted : Text.Unquoted (Text.concat ["Resolve ``", type.name,
      "`` instances from a batch of identity references."]) :=
    .around (by decide) (by decide) named
  exact .subclass (canBind_batchResolver named) named unquoted.quotable (List.forall_mem_nil _)

/-- The class for a computed field is proper. -/
theorem computationClass_proper (named : type.name.isName = true) {field : Field}
    (spelled : SyntaxNode.Spelled (.field field))
    (described : ∀ text ∈ field.description.toList, Quotable text)
    (computed : field.isComputed = true) : (type.computationClass field).Proper := by
  obtain ⟨fieldNamed, -, arguments⟩ := spelled.field
  refine .subclass (canBind_fieldResolver named fieldNamed) trivial
    (quotable_describedOr described ?_) ?_
  · have listed : Text.Unquoted (Text.join ", " (field.arguments.map (fun argument =>
        Text.concat [argument.name, ": ", argument.type.notated]))) := by
      refine .join (by decide) (List.forall_mem_map.mpr fun argument member => ?_)
      obtain ⟨argumentNamed, typed, -⟩ := (arguments argument member).inputValue
      refine .concat ?_
      simp only [List.forall_mem_cons]
      exact ⟨.name (isNameRest_of_isName argumentNamed), by decide, .notated typed,
        List.forall_mem_nil _⟩
    refine .concat ?_
    simp only [List.forall_mem_cons]
    exact ⟨by decide, .name (isNameRest_of_isName named), by decide,
      .name (isNameRest_of_isName fieldNamed), by decide, listed, by decide,
      List.forall_mem_nil _⟩
  · refine List.forall_mem_singleton.mpr (.arguments ?_)
    simpa [Field.isComputed] using computed

end FieldedType

/-- The statements of a definition that is spelled properly and readable are proper. -/
theorem Definition.statements_proper {definition : Definition}
    (spelled : SyntaxNode.Spelled (.definition definition)) (readable : definition.Readable) :
    ∀ statement ∈ definition.statements, statement.Proper := by
  have unlike := (List.forall_mem_cons.mp readable.bound).1
  cases definition with
  | object type =>
    obtain ⟨named, fields⟩ := spelled.fielded rfl
    refine List.forall_mem_cons.mpr ⟨FieldedType.recordClass_proper named fields readable,
      List.forall_mem_append.mpr ⟨?_, List.forall_mem_map.mpr fun field member => ?_⟩⟩
    · split
      · exact List.forall_mem_singleton.mpr (FieldedType.lookupClass_proper named)
      · exact List.forall_mem_nil _
    · obtain ⟨listed, computed⟩ := List.mem_filter.mp member
      refine FieldedType.computationClass_proper named (fields field listed) ?_ computed
      intro text said
      refine readable.described text (List.mem_append_right _ ?_)
      exact List.mem_flatMap.mpr ⟨field, member, said⟩
  | interface type =>
    obtain ⟨named, fields⟩ := spelled.fielded rfl
    exact List.forall_mem_singleton.mpr (FieldedType.protocolClass_proper named fields readable)
  | inputObject type =>
    obtain ⟨named, fields⟩ := spelled.inputType
    refine List.forall_mem_singleton.mpr (.record (canBind_identifier named unlike)
      (quotable_describedOr readable.described (.around (by decide) (by decide) named)) ?_)
    refine List.forall_mem_map.mpr fun field member => ?_
    obtain ⟨spelled, typed, numeric⟩ := (fields field member).inputValue
    have other := readable.bound field.name
      (List.mem_cons_of_mem _ (List.mem_map_of_mem member))
    exact proper_attribute (canBind_identifier spelled other) typed numeric
  | enum type =>
    obtain ⟨named, values⟩ := spelled.enumType
    refine List.forall_mem_singleton.mpr (.subclass (canBind_identifier named unlike) trivial
      (quotable_describedOr readable.described (.around (by decide) (by decide) named)) ?_)
    refine List.forall_mem_map.mpr fun value member => ?_
    have other := readable.bound value.name
      (List.mem_cons_of_mem _ (List.mem_map_of_mem member))
    exact .value (canBind_identifier (values value member) other)
  | union type =>
    have named := typeName_spelled spelled (by simp [DefinesType, kind])
    exact List.forall_mem_singleton.mpr (.union (canBind_identifier named unlike))
  | scalar type =>
    have named := typeName_spelled spelled (by simp [DefinesType, kind])
    exact List.forall_mem_singleton.mpr (.newType (canBind_identifier named unlike))
  | directive _ | schema _ => exact List.forall_mem_nil _

end SchemaForge

import SchemaForge.Proofs.ErrorLocality

/-!
# Brackets of a definition

The brackets of a definition are nested: each one that is opened is closed by the bracket of its
own kind, and what stands between the two is nested too. The phrases of the language say so one
by one. A cursor counts brackets without regard to their kinds, and behind what is nested it has
counted as many as in front.
-/

namespace SchemaForge

/-! ## Nested brackets -/

/-- The kind that closes what a kind opens. -/
def TokenKind.closer? : TokenKind → Option TokenKind
  | .leftBrace => some .rightBrace
  | .leftParen => some .rightParen
  | .leftBracket => some .rightBracket
  | _ => none

/-- Kinds among which every bracket that is opened is closed by one of its own kind, and every
bracket that is closed was opened. -/
inductive Nested : List TokenKind → Prop where
  | nothing : Nested []
  | flat {kind : TokenKind} {further : List TokenKind}
      (plain : kind.opens = false ∧ kind.closes = false) (behind : Nested further) :
      Nested (kind :: further)
  | pair {opener closer : TokenKind} {inside further : List TokenKind}
      (matching : opener.closer? = some closer) (within : Nested inside)
      (behind : Nested further) : Nested (opener :: (inside ++ closer :: further))

/-- What closes a kind is counted as closing, and the kind as opening. -/
theorem TokenKind.counted_of_closer? {opener closer : TokenKind}
    (matching : opener.closer? = some closer) :
    opener.opens = true ∧ closer.opens = false ∧ closer.closes = true := by
  cases opener with
  | leftBrace | leftParen | leftBracket =>
    obtain rfl := Option.some.inj matching
    exact ⟨rfl, rfl, rfl⟩
  | _ => cases matching

namespace Nested

variable {kinds others : List TokenKind}

/-- Nested kinds behind nested kinds are nested. By induction on the first ones. -/
theorem append (front : Nested kinds) (behind : Nested others) : Nested (kinds ++ others) := by
  induction front with
  | nothing => exact behind
  | flat plain _ inductionHypothesis => exact .flat plain inductionHypothesis
  | pair matching within _ _ inductionHypothesis =>
    rw [List.cons_append, List.append_assoc, List.cons_append]
    exact .pair matching within inductionHypothesis

/-- Behind nested kinds as many brackets are counted as in front of them. By induction on how
they are nested, for every number in front. -/
theorem depth (nested : Nested kinds) (depth : Nat) : kinds.foldl depthAfter depth = depth := by
  induction nested generalizing depth with
  | nothing => rfl
  | @flat kind further plain _ inductionHypothesis =>
    have same : depthAfter depth kind = depth := by
      rw [depthAfter, plain.1, plain.2]
      rfl
    rw [List.foldl_cons, same, inductionHypothesis]
  | @pair opener closer inside further matching _ _ inner outer =>
    obtain ⟨opens, keeps, closes⟩ := TokenKind.counted_of_closer? matching
    have counted : depthAfter (depthAfter depth opener) closer = depth := by
      rw [depthAfter, depthAfter, opens, keeps, closes]
      rfl
    rw [List.foldl_cons, List.foldl_append, inner, List.foldl_cons, counted, outer]

end Nested

/-- Tokens whose kinds are nested leave the depth as it is. -/
theorem depthOver_of_nested {tokens : List Token} (nested : Nested (tokens.map Token.kind))
    (depth : Nat) : depthOver depth tokens = depth := by
  have counted := nested.depth depth
  rwa [List.foldl_map] at counted

/-! ## Combined phrases -/

/-- Words whose brackets are nested. -/
def NestedWords (words : List Reading) : Prop := Nested (words.map Prod.fst)

/-- A phrase that only nested words spell. -/
def NestedPhrase {α : Type} (phrase : Phrase α) : Prop :=
  ∀ {words : List Reading} {tree : α}, phrase words tree → NestedWords words

/-- Words that are nested up to the bracket that closes them, which is the last one. -/
def ClosedWords (closer : TokenKind) (words : List Reading) : Prop :=
  ∃ inside spelling, words = inside ++ [(closer, spelling)] ∧ NestedWords inside

section Combined

variable {α : Type} {words others : List Reading}

/-- No words are nested. -/
theorem NestedWords.nil : NestedWords [] := .nothing

/-- Nested words behind nested words are nested. -/
theorem NestedWords.append (front : NestedWords words) (behind : NestedWords others) :
    NestedWords (words ++ others) := by
  rw [NestedWords, List.map_append]
  exact Nested.append front behind

/-- A word that is no bracket is nested. -/
theorem NestedWords.word {kind : TokenKind} (plain : kind.opens = false ∧ kind.closes = false)
    (spelling : Text) : NestedWords [(kind, spelling)] := .flat plain .nothing

/-- Closed words behind the bracket that opens them are nested. -/
theorem ClosedWords.nested {opener closer : TokenKind} {mark : List Reading}
    (closed : ClosedWords closer words) (opened : Mark opener mark)
    (matching : opener.closer? = some closer) : NestedWords (mark ++ words) := by
  obtain ⟨spelling⟩ := opened
  obtain ⟨inside, ending, rfl, within⟩ := closed
  rw [NestedWords, List.map_append, List.map_append]
  exact .pair matching within .nothing

/-- A mark that is no bracket is nested. -/
theorem Mark.nested {kind : TokenKind} (marked : Mark kind words)
    (plain : kind.opens = false ∧ kind.closes = false) : NestedWords words := by
  obtain ⟨spelling⟩ := marked
  exact .word plain spelling

/-- A mark that may be left out is nested, if it is no bracket. -/
theorem OptionalMark.nested {kind : TokenKind} (leading : OptionalMark kind words)
    (plain : kind.opens = false ∧ kind.closes = false) : NestedWords words := by
  cases leading with
  | missing => exact .nil
  | given marked => exact marked.nested plain

/-- A keyword is nested. -/
theorem Keyword.nested {word : Text} (introduced : Keyword word words) : NestedWords words := by
  obtain ⟨⟩ := introduced
  exact .word (by decide) word

/-- A name is nested. -/
theorem name_nested : NestedPhrase NamePhrase := by
  rintro _ name ⟨⟩
  exact .word (by decide) name

/-- A description is nested. -/
theorem description_nested : NestedPhrase DescriptionPhrase := by
  intro words tree derived
  cases derived with
  | missing => exact .nil
  | @given kind quoted value =>
    refine .word ?_ value
    cases kind with
    | string | blockString => exact ⟨rfl, rfl⟩
    | _ => cases quoted

/-- Items are nested if each is, of which none is longer than all of them. By induction on the
items. -/
theorem Repeated.nestedWithin {item : Phrase α} {trees : List α}
    (derived : Repeated item words trees)
    (items : ∀ {part tree}, part.length ≤ words.length → item part tree → NestedWords part) :
    NestedWords words := by
  induction derived with
  | none => exact .nil
  | @more words others tree trees first further inductionHypothesis =>
    have shorter : words.length ≤ (words ++ others).length := by simp
    refine (items shorter first).append (inductionHypothesis ?_)
    intro part tree within given
    refine items ?_ given
    rw [List.length_append]
    omega

/-- Items that are nested are nested together. -/
theorem repeated_nested {item : Phrase α} (items : NestedPhrase item) :
    NestedPhrase (Repeated item) :=
  fun derived => derived.nestedWithin fun _ => items

/-- Items are closed by their closing mark. -/
theorem Enclosed.closedWithin {item : Phrase α} {closer : TokenKind} {trees : List α}
    (derived : Enclosed closer item words trees)
    (items : ∀ {part tree}, part.length ≤ words.length → item part tree → NestedWords part) :
    ClosedWords closer words := by
  obtain @⟨inside, mark, _, given, closed⟩ := derived
  obtain ⟨spelling⟩ := closed
  refine ⟨inside, spelling, rfl, given.nestedWithin ?_⟩
  intro part tree within
  refine items ?_
  rw [List.length_append]
  omega

/-- Items that are nested are closed by their closing mark. -/
theorem Enclosed.closed {item : Phrase α} {closer : TokenKind} {trees : List α}
    (derived : Enclosed closer item words trees) (items : NestedPhrase item) :
    ClosedWords closer words :=
  derived.closedWithin fun _ => items

/-- A part behind a mark that is no bracket is nested. -/
theorem introduced_nested {part : Phrase α} {opener : TokenKind} {otherwise : α}
    (plain : opener.opens = false ∧ opener.closes = false) (parts : NestedPhrase part) :
    NestedPhrase (Introduced opener part otherwise) := by
  intro words tree derived
  cases derived with
  | absent => exact .nil
  | present opened given => exact (opened.nested plain).append (parts given)

/-- A part in brackets is nested. -/
theorem bracketed_nested {part : Phrase α} {opener closer : TokenKind} {otherwise : α}
    (matching : opener.closer? = some closer)
    (parts : ∀ {words tree}, part words tree → ClosedWords closer words) :
    NestedPhrase (Introduced opener part otherwise) := by
  intro words tree derived
  cases derived with
  | absent => exact .nil
  | present opened given => exact (parts given).nested opened matching

/-- Items in parentheses are nested. -/
theorem parenthesized_nested {item : Phrase α} (items : NestedPhrase item) :
    NestedPhrase (ParenthesizedPhrase item) :=
  bracketed_nested rfl fun derived => by
    obtain ⟨given⟩ := derived
    exact given.closed items

/-- Items in braces are nested. -/
theorem braced_nested {item : Phrase α} (items : NestedPhrase item) :
    NestedPhrase (BracedPhrase item) :=
  bracketed_nested rfl fun derived => derived.closed items

/-- Items with separators that are no brackets are nested. -/
theorem separated_nested {item : Phrase α} {separator : TokenKind}
    (plain : separator.opens = false ∧ separator.closes = false) (items : NestedPhrase item) :
    NestedPhrase (Separated separator item) := by
  intro words trees derived
  obtain ⟨leading, first, further⟩ := derived
  have behind : NestedPhrase (Behind separator item) := by
    rintro _ _ ⟨marked, given⟩
    exact (marked.nested plain).append (items given)
  exact (leading.nested plain).append ((items first).append (repeated_nested behind further))

end Combined

/-! ## Types and constants -/

/-- A named type is nested. -/
theorem namedType_nested : NestedPhrase NamedTypePhrase := by
  rintro _ _ ⟨named⟩
  exact name_nested named

mutual

/-- A type is nested. -/
theorem TypePhrase.nested {words : List Reading} {type : TypeReference} :
    TypePhrase words type → NestedWords words
  | .nullable bare => bare.nested
  | .nonNull bare marked => bare.nested.append (marked.nested (by decide))

/-- A type without its mark is nested. -/
theorem BareTypePhrase.nested {words : List Reading} {type : TypeReference} :
    BareTypePhrase words type → NestedWords words
  | .named mention => namedType_nested mention
  | .list opened inner closed => by
    obtain ⟨spelling⟩ := closed
    exact ClosedWords.nested ⟨_, _, rfl, inner.nested⟩ opened rfl

end

/-- A constant is nested, if the constants with fewer words are. -/
theorem constant_nestedWithin {words : List Reading} {tree : Value}
    (inside : ∀ {inner tree}, inner.length < words.length → ConstantPhrase inner tree →
      NestedWords inner)
    (derived : ConstantPhrase words tree) : NestedWords words := by
  cases derived with
  | string | blockString | int | float | yes | no | null | enum => exact .word (by decide) _
  | list opened given =>
    obtain ⟨spelling⟩ := opened
    exact (given.closedWithin fun within => inside (Nat.lt_succ_of_le within)).nested ⟨_⟩ rfl
  | object opened given =>
    obtain ⟨spelling⟩ := opened
    refine ClosedWords.nested (given.closedWithin ?_) ⟨_⟩ rfl
    intro part field within derivedField
    obtain ⟨named, divided, value⟩ := derivedField
    refine (name_nested named).append ((divided.nested (by decide)).append (inside ?_ value))
    rw [List.length_append, List.length_append] at within
    rw [List.length_append, List.length_singleton]
    omega

/-- A constant is nested. By induction on the number of its words. -/
theorem constant_nested : NestedPhrase ConstantPhrase := by
  intro words tree derived
  induction size : words.length using Nat.strongRecOn generalizing words tree with
  | ind size inductionHypothesis =>
    refine constant_nestedWithin (fun fewer given => ?_) derived
    exact inductionHypothesis _ (size ▸ fewer) given rfl

/-! ## Directives and members -/

/-- An argument is nested. -/
theorem argument_nested : NestedPhrase ArgumentPhrase := by
  rintro _ _ ⟨named, divided, given⟩
  exact (name_nested named).append ((divided.nested (by decide)).append (constant_nested given))

/-- A directive is nested. -/
theorem directive_nested : NestedPhrase DirectivePhrase := by
  rintro _ _ ⟨marked, named, listed⟩
  exact (marked.nested (by decide)).append
    ((name_nested named).append (parenthesized_nested argument_nested listed))

/-- Directives are nested. -/
theorem directives_nested : NestedPhrase DirectivesPhrase := repeated_nested directive_nested

/-- A default value is nested. -/
theorem default_nested : NestedPhrase (Introduced .equals (Present ConstantPhrase) none) := by
  refine introduced_nested (by decide) ?_
  rintro _ _ ⟨given⟩
  exact constant_nested given

/-- An input value is nested. -/
theorem inputValue_nested : NestedPhrase InputValuePhrase := by
  rintro _ _ ⟨described, named, divided, typed, defaulted, directed⟩
  exact (description_nested described).append <| (name_nested named).append <|
    (divided.nested (by decide)).append <| typed.nested.append <|
      (default_nested defaulted).append (directives_nested directed)

/-- A field is nested. -/
theorem field_nested : NestedPhrase FieldPhrase := by
  rintro _ _ ⟨described, named, listed, divided, typed, directed⟩
  exact (description_nested described).append <| (name_nested named).append <|
    (parenthesized_nested inputValue_nested listed).append <|
      (divided.nested (by decide)).append <| typed.nested.append (directives_nested directed)

/-- A value of an enumeration is nested. -/
theorem enumMember_nested : NestedPhrase EnumMemberPhrase := by
  rintro _ _ ⟨described, named, -, directed⟩
  exact (description_nested described).append
    ((name_nested named).append (directives_nested directed))

/-- The root type of an operation is nested. -/
theorem operationType_nested : NestedPhrase OperationTypePhrase := by
  rintro _ _ ⟨named, -, divided, mention⟩
  exact (name_nested named).append
    ((divided.nested (by decide)).append (namedType_nested mention))

/-- The interfaces of a type are nested. -/
theorem interfaces_nested : NestedPhrase InterfacesPhrase := by
  intro words types derived
  cases derived with
  | absent => exact .nil
  | present introduced listed =>
    exact introduced.nested.append (separated_nested (by decide) namedType_nested listed)

/-! ## Definitions -/

/-- An object or interface type is nested. -/
theorem fieldedType_nested {keyword : Text} {description : Option Text} :
    NestedPhrase (FieldedTypePhrase keyword description) := by
  rintro _ _ ⟨introduced, named, implementing, directed, braced⟩
  exact introduced.nested.append <| (name_nested named).append <|
    (interfaces_nested implementing).append <| (directives_nested directed).append
      (braced_nested field_nested braced)

/-- The word that allows a directive more than once is nested. -/
theorem repeatable_nested : NestedPhrase RepeatablePhrase := by
  intro words tree derived
  cases derived with
  | absent => exact .nil
  | present given => exact given.nested

/-- The declaration of a directive is nested. -/
theorem directiveDeclaration_nested {description : Option Text} :
    NestedPhrase (DirectiveDeclarationPhrase description) := by
  rintro _ _ ⟨introduced, marked, named, listed, repeated, placed, located⟩
  exact introduced.nested.append <| (marked.nested (by decide)).append <|
    (name_nested named).append <| (parenthesized_nested inputValue_nested listed).append <|
      (repeatable_nested repeated).append <|
        placed.nested.append (separated_nested (by decide) name_nested located)

/-- A schema block is nested. -/
theorem schemaBlock_nested {description : Option Text} :
    NestedPhrase (SchemaBlockPhrase description) := by
  rintro _ _ ⟨introduced, directed, opened, listed⟩
  obtain ⟨given⟩ := listed
  exact introduced.nested.append <| (directives_nested directed).append <|
    (given.closed operationType_nested).nested opened rfl

/-- A definition behind its description is nested. -/
theorem definitionBody_nested {description : Option Text} :
    NestedPhrase (DefinitionBody description) := by
  intro words tree derived
  cases derived with
  | schema given => exact schemaBlock_nested given
  | scalar given =>
    obtain ⟨introduced, named, directed⟩ := given
    exact introduced.nested.append ((name_nested named).append (directives_nested directed))
  | object given => exact fieldedType_nested given
  | interface given => exact fieldedType_nested given
  | union given =>
    obtain ⟨introduced, named, directed, listed⟩ := given
    exact introduced.nested.append <| (name_nested named).append <|
      (directives_nested directed).append <|
        introduced_nested (by decide) (separated_nested (by decide) namedType_nested) listed
  | enum given =>
    obtain ⟨introduced, named, directed, braced⟩ := given
    exact introduced.nested.append <| (name_nested named).append <|
      (directives_nested directed).append (braced_nested enumMember_nested braced)
  | inputObject given =>
    obtain ⟨introduced, named, directed, braced⟩ := given
    exact introduced.nested.append <| (name_nested named).append <|
      (directives_nested directed).append (braced_nested inputValue_nested braced)
  | directive given => exact directiveDeclaration_nested given

/-- A definition is nested. -/
theorem definition_nested : NestedPhrase DefinitionPhrase := by
  rintro _ _ ⟨described, body⟩
  exact (description_nested described).append (definitionBody_nested body)

end SchemaForge

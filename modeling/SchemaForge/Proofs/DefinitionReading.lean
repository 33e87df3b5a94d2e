import SchemaForge.Proofs.MemberReading
import SchemaForge.Schema.Document

/-!
# Reading definitions and documents

A definition is chosen by its keyword, which is an ordinary name everywhere else. It
ends where the next one begins: no optional part at the end of a definition can take a
string or a keyword for its own. The name `implements` is the one word that would be
taken, and no definition begins with it.

A document without an error is therefore a sequence of definitions and nothing else.
Recovery plays no part in that: it decides only which errors are reported together.
-/

namespace SchemaForge

open Production Grammar

/-! ## Keywords -/

/-- The first word is the given name. -/
def StartsWith (word : Text) (ahead : List Reading) : Prop :=
  ∃ others, ahead = (.name, word) :: others

/-- A word of another kind is no name. -/
theorem not_startsWith {word : Text} {first : Reading} (other : first.1 ≠ .name)
    (others : List Reading) : ¬ StartsWith word (first :: others) := by
  rintro ⟨_, same⟩
  obtain ⟨rfl, -⟩ := List.cons.inj same
  exact other rfl

/-- A name rules out every mark. -/
theorem StartsWith.nextNot {word : Text} {ahead : List Reading} {kinds : List TokenKind}
    (starts : StartsWith word ahead) (marks : .name ∉ kinds) : NextNot kinds ahead := by
  obtain ⟨others, rfl⟩ := starts
  exact marks

/-- The next token is a name of the given spelling exactly if the first word is. -/
theorem Cursor.Sees.startsWith_iff {cursor : Cursor} {ahead : List Reading} {word : Text}
    (sees : cursor.Sees ahead) :
    (cursor.current.kind = .name ∧ cursor.current.value = word) ↔ StartsWith word ahead := by
  constructor
  · rintro ⟨named, rfl⟩
    obtain ⟨value, others, rfl⟩ := exists_of_nextKind (sees.kind.symm.trans named) (by decide)
    exact ⟨others, by rw [sees.value]⟩
  · rintro ⟨others, rfl⟩
    exact ⟨sees.kind, sees.value⟩

/-- A test for names succeeds at one of them. -/
theorem Cursor.Sees.isNameIn_iff {cursor : Cursor} {ahead : List Reading} {names : List Text}
    (sees : cursor.Sees ahead) (some : names.isEmpty = false) :
    cursor.current.isNameIn names = true ↔ ∃ name ∈ names, StartsWith name ahead := by
  simp only [Token.isNameIn, Token.isName, some, Bool.false_or, Bool.and_eq_true,
    decide_eq_true_eq, List.contains_iff_mem, ← sees.startsWith_iff]
  constructor
  · rintro ⟨named, member⟩
    exact ⟨_, member, named, rfl⟩
  · rintro ⟨_, member, named, rfl⟩
    exact ⟨named, member⟩

/-- A test for one name succeeds at that name. -/
theorem Cursor.Sees.isKeyword_iff {cursor : Cursor} {ahead : List Reading} {word : Text}
    (sees : cursor.Sees ahead) :
    cursor.current.isNameIn [word] = true ↔ StartsWith word ahead := by
  rw [sees.isNameIn_iff rfl]
  simp

/-- A keyword is where it is seen. -/
theorem Keyword.startsWith {word : Text} {words : List Reading} (introduced : Keyword word words)
    (rest : List Reading) : StartsWith word (words ++ rest) := by
  obtain ⟨⟩ := introduced
  exact ⟨rest, rfl⟩

/-- A keyword is not another one. -/
theorem Keyword.not_startsWith {word other : Text} {words : List Reading}
    (introduced : Keyword word words) (different : word ≠ other) (rest : List Reading) :
    ¬ StartsWith other (words ++ rest) := by
  obtain ⟨⟩ := introduced
  rintro ⟨_, same⟩
  obtain ⟨⟨-, rfl⟩, -⟩ := List.cons.inj same |>.imp_left Prod.mk.inj
  exact different rfl

/-- With or without the word `repeatable`, the next word is a name. -/
theorem RepeatablePhrase.nextNot {again place : List Reading} {repeatable : Bool} {word : Text}
    {kinds : List TokenKind} (repeated : RepeatablePhrase again repeatable)
    (placed : Keyword word place) (marks : .name ∉ kinds) (rest : List Reading) :
    NextNot kinds (again ++ (place ++ rest)) := by
  cases repeated with
  | absent => exact (placed.startsWith rest).nextNot marks
  | present given => exact (given.startsWith _).nextNot marks

/-! ## Parts of definitions -/

/-- A type by its name begins with the name. -/
theorem namedType_begins : BeginsWith [.name] NamedTypePhrase := by
  rintro words tree ⟨⟨name⟩⟩
  exact ⟨_, _, rfl, List.mem_singleton_self _⟩

/-- Interfaces are introduced by a word, not by a mark. -/
theorem interfaces_reads :
    Reads interfaces (List.map NamedType.withoutSpans) InterfacesPhrase Anywhere
      (fun rest => NextNot [.amp] rest ∧ ¬ StartsWith "implements" rest) where
  sound := by
    intro cursor last ahead types sees _ accepted
    simp only [interfaces, bind_accepted, peek_accepted] at accepted
    obtain ⟨_, _, ⟨rfl, rfl⟩, decided⟩ := accepted
    split at decided
    · next introduced =>
      obtain ⟨others, rfl⟩ := sees.isKeyword_iff.mp introduced
      simp only [bind_accepted, advance_accepted] at decided
      obtain ⟨_, _, ⟨rfl, rfl⟩, listing⟩ := decided
      obtain ⟨words, rest, rfl, seen, listed⟩ :=
        (separated_reads namedType_reads namedType_begins (by decide) (by decide)).sound
          sees.advance trivial listing
      exact ⟨_ :: words, rest, rfl, seen, .present .intro listed⟩
    · obtain ⟨rfl, rfl⟩ := pure_accepted.mp decided
      exact ⟨[], ahead, rfl, sees, .absent⟩
  complete := by
    rintro cursor words rest tree sees derived ⟨ended, different⟩
    cases derived with
    | absent =>
      have missing : cursor.current.isNameIn ["implements"] = false := by
        rw [Bool.eq_false_iff, Ne, sees.isKeyword_iff]
        exact different
      refine ⟨[], cursor, accepted_bind rfl ?_, sees, rfl⟩
      simp only [missing]
      rfl
    | present introduced listed =>
      rw [List.append_assoc] at sees
      have present : cursor.current.isNameIn ["implements"] = true :=
        sees.isKeyword_iff.mpr (introduced.startsWith _)
      obtain ⟨types, last, listing, seen, rfl⟩ :=
        (separated_reads namedType_reads namedType_begins (by decide) (by decide)).complete
          (introduced.pass sees) listed ended
      refine ⟨types, last, accepted_bind rfl ?_, seen, rfl⟩
      simp only [present]
      exact accepted_bind rfl listing

/-- The members of a union are introduced by an equals sign. -/
theorem unionMembers_reads :
    Reads unionMembers (List.map NamedType.withoutSpans)
      (Introduced .equals (Separated .pipe NamedTypePhrase) []) Anywhere
      (NextNot [.pipe, .equals]) :=
  (introduced_reads []
    (separated_reads namedType_reads namedType_begins (by decide) (by decide))
    (by decide)).ending
    (fun ended => ⟨ended.of_subset (by simp), fun same => ended (by simp [same])⟩)

/-- The locations of a directive are names between bars. -/
theorem locations_reads :
    Reads (separated .pipe (expectName .directiveLocation)) (List.map Token.value)
      (Separated .pipe NamePhrase) Anywhere (NextNot [.pipe]) :=
  separated_reads (expectName_reads _) name_begins (by decide) (by decide)

/-- The word `repeatable` is read if it is there. -/
theorem repeatability_reads :
    Reads repeatability id RepeatablePhrase Anywhere
      (fun rest => ¬ StartsWith "repeatable" rest) where
  sound := by
    intro cursor last ahead repeatable sees _ accepted
    simp only [repeatability, bind_accepted, peek_accepted] at accepted
    obtain ⟨_, _, ⟨rfl, rfl⟩, decided⟩ := accepted
    split at decided
    · next given =>
      obtain ⟨others, rfl⟩ := sees.isKeyword_iff.mp given
      simp only [bind_accepted, advance_accepted, pure_accepted] at decided
      obtain ⟨_, _, ⟨rfl, rfl⟩, rfl, rfl⟩ := decided
      exact ⟨[_], others, rfl, sees.advance, .present .intro⟩
    · obtain ⟨rfl, rfl⟩ := pure_accepted.mp decided
      exact ⟨[], ahead, rfl, sees, .absent⟩
  complete := by
    intro cursor words rest tree sees derived different
    cases derived with
    | absent =>
      have missing : cursor.current.isNameIn ["repeatable"] = false := by
        rw [Bool.eq_false_iff, Ne, sees.isKeyword_iff]
        exact different
      refine ⟨false, cursor, accepted_bind rfl ?_, sees, rfl⟩
      simp only [missing]
      rfl
    | present given =>
      have present : cursor.current.isNameIn ["repeatable"] = true :=
        sees.isKeyword_iff.mpr (given.startsWith _)
      refine ⟨true, cursor.advance, accepted_bind rfl ?_, given.pass sees, rfl⟩
      simp only [present]
      rfl

/-- The word before the locations of a directive must be there. -/
theorem onKeyword_accepted {cursor last : Cursor} {ahead : List Reading} {token : Token}
    (sees : cursor.Sees ahead) :
    onKeyword cursor = .accepted token last ↔
      StartsWith "on" ahead ∧ cursor.current = token ∧ cursor.advance = last := by
  simp only [onKeyword, bind_accepted, peek_accepted, ← sees.isKeyword_iff]
  constructor
  · rintro ⟨_, _, ⟨rfl, rfl⟩, decided⟩
    split at decided
    · next given => exact ⟨given, advance_accepted.mp decided⟩
    · exact (reject_accepted.mp decided).elim
  · rintro ⟨given, passed⟩
    refine ⟨_, _, ⟨rfl, rfl⟩, ?_⟩
    rw [if_pos given]
    exact advance_accepted.mpr passed

/-- An operation of a schema block. Its name is one of three. -/
theorem operationType_reads :
    Reads operationType OperationType.withoutSpans OperationTypePhrase Anywhere
      (NextNot []) where
  sound := by
    intro cursor last ahead operation sees _ accepted
    simp only [operationType, bind_accepted, peek_accepted] at accepted
    obtain ⟨_, _, ⟨rfl, rfl⟩, decided⟩ := accepted
    split at decided
    · next named =>
      obtain ⟨name, known, others, rfl⟩ := (sees.isNameIn_iff rfl).mp named
      simp only [bind_accepted, advance_accepted, spanFrom_accepted, pure_accepted] at decided
      obtain ⟨_, _, ⟨rfl, rfl⟩, _, _, dividing, type, _, mentioning, _, _, ⟨rfl, rfl⟩, rfl,
        rfl⟩ := decided
      obtain ⟨colon, _, rfl, seen, divided⟩ := expect_sound sees.advance dividing (by decide)
      obtain ⟨words, rest, rfl, seen, mention⟩ := namedType_reads.sound seen trivial mentioning
      refine ⟨[(.name, name)] ++ (colon ++ words), rest, by simp, seen, ?_⟩
      rw [OperationType.withoutSpans, sees.value]
      exact .intro (.intro name) known divided mention
    · exact (reject_accepted.mp decided).elim
  complete := by
    intro cursor words rest tree sees derived ended
    obtain @⟨_, _, _, operation, _, named, known, divided, mention⟩ := derived
    obtain ⟨operation⟩ := named
    simp only [List.cons_append, List.nil_append, List.append_assoc] at sees
    have given : cursor.current.isNameIn ["query", "mutation", "subscription"] = true :=
      (sees.isNameIn_iff rfl).mpr ⟨operation, known, _, rfl⟩
    obtain ⟨_, _, dividing, seen⟩ :=
      expect_complete .expectedOperationColon sees.advance divided
    obtain ⟨type, last, mentioning, seen, rfl⟩ := namedType_reads.complete seen mention ended
    refine ⟨⟨cursor.current.value, type, last.spanFrom cursor.current⟩, last,
      accepted_bind rfl ?_, seen, ?_⟩
    · rw [if_pos given]
      exact accepted_bind rfl <| accepted_bind dividing <| accepted_bind mentioning <|
        accepted_bind rfl rfl
    · rw [OperationType.withoutSpans, sees.value]

/-- An operation begins with its name. -/
theorem operationType_begins : BeginsWith [.name] OperationTypePhrase := by
  rintro words tree ⟨⟨name⟩, known, divided, mention⟩
  exact ⟨_, _, rfl, List.mem_singleton_self _⟩

/-! ## Definitions from their keyword on -/

/-- What comes behind a definition: nothing that its last part could take for its own. -/
structure DefinitionEnds (rest : List Reading) : Prop where
  /-- No mark that would begin or go on with an optional part. -/
  marks : NextNot [TokenKind.at, .leftParen, .leftBrace, .equals, .amp, .pipe] rest
  /-- Not the word that would begin the interfaces. -/
  word : ¬ StartsWith "implements" rest

/-- The word that a definition begins with, behind its description. -/
def Definition.keyword : Definition → Text
  | .schema _ => "schema"
  | .scalar _ => "scalar"
  | .object _ => "type"
  | .interface _ => "interface"
  | .union _ => "union"
  | .enum _ => "enum"
  | .inputObject _ => "input"
  | .directive _ => "directive"

/-- No definition begins with the word that begins the interfaces. -/
theorem Definition.keyword_ne_implements (definition : Definition) :
    definition.keyword ≠ "implements" := by
  cases definition <;> (dsimp only [Definition.keyword]; decide)

/-- A definition begins with its keyword. -/
theorem DefinitionBody.startsWith {description : Option Text} {words : List Reading}
    {definition : Definition} (body : DefinitionBody description words definition)
    (rest : List Reading) : StartsWith definition.keyword (words ++ rest) := by
  cases body with
  | schema given => obtain ⟨⟨⟩⟩ := given; exact ⟨_, rfl⟩
  | scalar given => obtain ⟨⟨⟩⟩ := given; exact ⟨_, rfl⟩
  | object given => obtain ⟨⟨⟩⟩ := given; exact ⟨_, rfl⟩
  | interface given => obtain ⟨⟨⟩⟩ := given; exact ⟨_, rfl⟩
  | union given => obtain ⟨⟨⟩⟩ := given; exact ⟨_, rfl⟩
  | enum given => obtain ⟨⟨⟩⟩ := given; exact ⟨_, rfl⟩
  | inputObject given => obtain ⟨⟨⟩⟩ := given; exact ⟨_, rfl⟩
  | directive given => obtain ⟨⟨⟩⟩ := given; exact ⟨_, rfl⟩

section Definitions

variable (first : Token) (described : Option Text)

/-- A scalar type. -/
theorem scalarType_reads :
    Reads (scalarType first described) ScalarType.withoutSpans (ScalarTypePhrase described)
      (StartsWith "scalar") DefinitionEnds where
  sound := by
    rintro cursor last ahead type sees ⟨others, rfl⟩ accepted
    simp only [scalarType, bind_accepted, advance_accepted, spanFrom_accepted,
      pure_accepted] at accepted
    obtain ⟨_, _, ⟨rfl, rfl⟩, name, _, naming, applied, _, directing, _, _, ⟨rfl, rfl⟩, rfl,
      rfl⟩ := accepted
    obtain ⟨_, _, rfl, seen, named⟩ := (expectName_reads _).sound sees.advance trivial naming
    obtain ⟨_, rest, rfl, seen, directed⟩ := directives_reads.sound seen trivial directing
    exact ⟨_ :: _, rest, by simp, seen, .intro .intro named directed⟩
  complete := by
    intro cursor words rest tree sees derived ended
    obtain ⟨introduced, named, directed⟩ := derived
    simp only [List.append_assoc] at sees
    obtain ⟨name, _, naming, seen, rfl⟩ :=
      (expectName_reads .scalar).complete (introduced.pass sees) named (nextNot_nil _)
    obtain ⟨_, last, directing, seen, rfl⟩ :=
      directives_reads.complete seen directed (ended.marks.of_subset (by decide))
    exact ⟨_, last, accepted_bind rfl <| accepted_bind naming <| accepted_bind directing <|
      accepted_bind rfl rfl, seen, rfl⟩

/-- An object or interface type. -/
theorem fieldedType_reads (keyword : Text) (role : NameRole) :
    Reads (fieldedType role first described) FieldedType.withoutSpans
      (FieldedTypePhrase keyword described) (StartsWith keyword) DefinitionEnds where
  sound := by
    rintro cursor last ahead type sees ⟨others, rfl⟩ accepted
    simp only [fieldedType, bind_accepted, advance_accepted, spanFrom_accepted,
      pure_accepted] at accepted
    obtain ⟨_, _, ⟨rfl, rfl⟩, name, _, naming, types, _, implementing, applied, _, directing,
      fields, _, bracing, _, _, ⟨rfl, rfl⟩, rfl, rfl⟩ := accepted
    obtain ⟨_, _, rfl, seen, named⟩ := (expectName_reads _).sound sees.advance trivial naming
    obtain ⟨_, _, rfl, seen, implemented⟩ := interfaces_reads.sound seen trivial implementing
    obtain ⟨_, _, rfl, seen, directed⟩ := directives_reads.sound seen trivial directing
    obtain ⟨_, rest, rfl, seen, braced⟩ :=
      (braced_reads field_reads field_begins (by decide) (by decide)).sound seen trivial bracing
    exact ⟨_ :: _, rest, by simp, seen, .intro .intro named implemented directed braced⟩
  complete := by
    intro cursor words rest tree sees derived ended
    obtain ⟨introduced, named, implemented, directed, braced⟩ := derived
    simp only [List.append_assoc] at sees
    obtain ⟨name, _, naming, seen, rfl⟩ :=
      (expectName_reads role).complete (introduced.pass sees) named (nextNot_nil _)
    obtain ⟨_, _, implementing, seen, rfl⟩ := interfaces_reads.complete seen implemented
      ⟨directives_nextNot directed (by decide)
          (braced.nextNot (by decide) (ended.marks.of_subset (by decide))),
        directed.before (fun ahead => ¬ StartsWith "implements" ahead) directive_begins
          (fun _ others sign => not_startsWith (by rw [List.mem_singleton.mp sign]; decide) others)
          (braced.before (fun ahead => ¬ StartsWith "implements" ahead)
            (fun _ => not_startsWith TokenKind.noConfusion) ended.word)⟩
    obtain ⟨_, _, directing, seen, rfl⟩ := directives_reads.complete seen directed
      (braced.nextNot (by decide) (ended.marks.of_subset (by decide)))
    obtain ⟨_, last, bracing, seen, rfl⟩ :=
      (braced_reads field_reads field_begins (by decide) (by decide)).complete seen braced
        (ended.marks.of_subset (by decide))
    exact ⟨_, last, accepted_bind rfl <| accepted_bind naming <| accepted_bind implementing <|
      accepted_bind directing <| accepted_bind bracing <| accepted_bind rfl rfl, seen, rfl⟩

/-- A union. -/
theorem unionType_reads :
    Reads (unionType first described) UnionType.withoutSpans (UnionTypePhrase described)
      (StartsWith "union") DefinitionEnds where
  sound := by
    rintro cursor last ahead type sees ⟨others, rfl⟩ accepted
    simp only [unionType, bind_accepted, advance_accepted, spanFrom_accepted,
      pure_accepted] at accepted
    obtain ⟨_, _, ⟨rfl, rfl⟩, name, _, naming, applied, _, directing, members, _, listing, _, _,
      ⟨rfl, rfl⟩, rfl, rfl⟩ := accepted
    obtain ⟨_, _, rfl, seen, named⟩ := (expectName_reads _).sound sees.advance trivial naming
    obtain ⟨_, _, rfl, seen, directed⟩ := directives_reads.sound seen trivial directing
    obtain ⟨_, rest, rfl, seen, listed⟩ := unionMembers_reads.sound seen trivial listing
    exact ⟨_ :: _, rest, by simp, seen, .intro .intro named directed listed⟩
  complete := by
    intro cursor words rest tree sees derived ended
    obtain ⟨introduced, named, directed, listed⟩ := derived
    simp only [List.append_assoc] at sees
    obtain ⟨name, _, naming, seen, rfl⟩ :=
      (expectName_reads .union).complete (introduced.pass sees) named (nextNot_nil _)
    obtain ⟨_, _, directing, seen, rfl⟩ := directives_reads.complete seen directed
      (listed.nextNot (by decide) (ended.marks.of_subset (by decide)))
    obtain ⟨_, last, listing, seen, rfl⟩ :=
      unionMembers_reads.complete seen listed (ended.marks.of_subset (by decide))
    exact ⟨_, last, accepted_bind rfl <| accepted_bind naming <| accepted_bind directing <|
      accepted_bind listing <| accepted_bind rfl rfl, seen, rfl⟩

/-- An enumeration. -/
theorem enumType_reads :
    Reads (enumType first described) EnumType.withoutSpans (EnumTypePhrase described)
      (StartsWith "enum") DefinitionEnds where
  sound := by
    rintro cursor last ahead type sees ⟨others, rfl⟩ accepted
    simp only [enumType, bind_accepted, advance_accepted, spanFrom_accepted,
      pure_accepted] at accepted
    obtain ⟨_, _, ⟨rfl, rfl⟩, name, _, naming, applied, _, directing, values, _, bracing, _, _,
      ⟨rfl, rfl⟩, rfl, rfl⟩ := accepted
    obtain ⟨_, _, rfl, seen, named⟩ := (expectName_reads _).sound sees.advance trivial naming
    obtain ⟨_, _, rfl, seen, directed⟩ := directives_reads.sound seen trivial directing
    obtain ⟨_, rest, rfl, seen, braced⟩ :=
      (braced_reads enumMember_reads enumMember_begins (by decide) (by decide)).sound seen trivial
        bracing
    exact ⟨_ :: _, rest, by simp, seen, .intro .intro named directed braced⟩
  complete := by
    intro cursor words rest tree sees derived ended
    obtain ⟨introduced, named, directed, braced⟩ := derived
    simp only [List.append_assoc] at sees
    obtain ⟨name, _, naming, seen, rfl⟩ :=
      (expectName_reads .enum).complete (introduced.pass sees) named (nextNot_nil _)
    obtain ⟨_, _, directing, seen, rfl⟩ := directives_reads.complete seen directed
      (braced.nextNot (by decide) (ended.marks.of_subset (by decide)))
    obtain ⟨_, last, bracing, seen, rfl⟩ :=
      (braced_reads enumMember_reads enumMember_begins (by decide) (by decide)).complete seen
        braced (ended.marks.of_subset (by decide))
    exact ⟨_, last, accepted_bind rfl <| accepted_bind naming <| accepted_bind directing <|
      accepted_bind bracing <| accepted_bind rfl rfl, seen, rfl⟩

/-- An input type. -/
theorem inputType_reads :
    Reads (inputType first described) InputType.withoutSpans (InputTypePhrase described)
      (StartsWith "input") DefinitionEnds where
  sound := by
    rintro cursor last ahead type sees ⟨others, rfl⟩ accepted
    simp only [inputType, bind_accepted, advance_accepted, spanFrom_accepted,
      pure_accepted] at accepted
    obtain ⟨_, _, ⟨rfl, rfl⟩, name, _, naming, applied, _, directing, fields, _, bracing, _, _,
      ⟨rfl, rfl⟩, rfl, rfl⟩ := accepted
    obtain ⟨_, _, rfl, seen, named⟩ := (expectName_reads _).sound sees.advance trivial naming
    obtain ⟨_, _, rfl, seen, directed⟩ := directives_reads.sound seen trivial directing
    obtain ⟨_, rest, rfl, seen, braced⟩ :=
      (braced_reads inputValue_reads inputValue_begins (by decide) (by decide)).sound seen trivial
        bracing
    exact ⟨_ :: _, rest, by simp, seen, .intro .intro named directed braced⟩
  complete := by
    intro cursor words rest tree sees derived ended
    obtain ⟨introduced, named, directed, braced⟩ := derived
    simp only [List.append_assoc] at sees
    obtain ⟨name, _, naming, seen, rfl⟩ :=
      (expectName_reads .input).complete (introduced.pass sees) named (nextNot_nil _)
    obtain ⟨_, _, directing, seen, rfl⟩ := directives_reads.complete seen directed
      (braced.nextNot (by decide) (ended.marks.of_subset (by decide)))
    obtain ⟨_, last, bracing, seen, rfl⟩ :=
      (braced_reads inputValue_reads inputValue_begins (by decide) (by decide)).complete seen
        braced (ended.marks.of_subset (by decide))
    exact ⟨_, last, accepted_bind rfl <| accepted_bind naming <| accepted_bind directing <|
      accepted_bind bracing <| accepted_bind rfl rfl, seen, rfl⟩

/-- The declaration of a directive. The word before the locations separates them from an
argument list and from the word `repeatable`. -/
theorem directiveDeclaration_reads :
    Reads (directiveDeclaration first described) DirectiveDeclaration.withoutSpans
      (DirectiveDeclarationPhrase described) (StartsWith "directive") DefinitionEnds where
  sound := by
    rintro cursor last ahead type sees ⟨others, rfl⟩ accepted
    simp only [directiveDeclaration, bind_accepted, advance_accepted, spanFrom_accepted,
      pure_accepted] at accepted
    obtain ⟨_, _, ⟨rfl, rfl⟩, _, _, signing, name, _, naming, declared, _, listing, repeatable, _,
      repeating, _, _, placing, locations, _, locating, _, _, ⟨rfl, rfl⟩, rfl, rfl⟩ := accepted
    obtain ⟨_, _, rfl, seen, marked⟩ := expect_sound sees.advance signing (by decide)
    obtain ⟨_, _, rfl, seen, named⟩ := (expectName_reads _).sound seen trivial naming
    obtain ⟨_, _, rfl, seen, listed⟩ := argumentDeclarations_reads.sound seen trivial listing
    obtain ⟨_, _, rfl, seen, repeated⟩ := repeatability_reads.sound seen trivial repeating
    obtain ⟨⟨_, rfl⟩, -, rfl⟩ := (onKeyword_accepted seen).mp placing
    obtain ⟨_, rest, rfl, seen, located⟩ := locations_reads.sound seen.advance trivial locating
    exact ⟨_ :: _, rest, by simp, seen,
      .intro .intro marked named listed repeated .intro located⟩
  complete := by
    intro cursor words rest tree sees derived ended
    obtain ⟨introduced, marked, named, listed, repeated, placed, located⟩ := derived
    simp only [List.append_assoc] at sees
    obtain ⟨_, _, signing, seen⟩ :=
      expect_complete .expectedDirectiveSign (introduced.pass sees) marked
    obtain ⟨name, _, naming, seen, rfl⟩ :=
      (expectName_reads .directive).complete seen named (nextNot_nil _)
    obtain ⟨_, _, listing, seen, rfl⟩ :=
      argumentDeclarations_reads.complete seen listed (repeated.nextNot placed (by decide) _)
    obtain ⟨_, _, repeating, seen, rfl⟩ :=
      repeatability_reads.complete seen repeated (placed.not_startsWith (by decide) _)
    have placing := (onKeyword_accepted seen).mpr ⟨placed.startsWith _, rfl, rfl⟩
    obtain ⟨_, last, locating, seen, rfl⟩ :=
      locations_reads.complete (placed.pass seen) located (ended.marks.of_subset (by decide))
    exact ⟨_, last, accepted_bind rfl <| accepted_bind signing <| accepted_bind naming <|
      accepted_bind listing <| accepted_bind repeating <|
      accepted_bind placing <| accepted_bind locating <|
      accepted_bind rfl rfl, seen, rfl⟩

/-- The operations of a schema block are in braces. -/
theorem operationList_reads :
    Reads (manyUntil .rightBrace operationType) (List.map OperationType.withoutSpans)
      (Enclosed .rightBrace OperationTypePhrase) Anywhere (NextNot []) :=
  manyUntil_reads operationType_reads operationType_begins (by decide) (by decide) (by decide)

/-- A schema block. -/
theorem schemaBlock_reads :
    Reads (schemaBlock first described) SchemaBlock.withoutSpans (SchemaBlockPhrase described)
      (StartsWith "schema") DefinitionEnds where
  sound := by
    rintro cursor last ahead type sees ⟨others, rfl⟩ accepted
    simp only [schemaBlock, bind_accepted, advance_accepted] at accepted
    obtain ⟨_, _, ⟨rfl, rfl⟩, applied, _, directing, _, _, opening, operations, _, listing,
      checked⟩ := accepted
    obtain ⟨_, _, rfl, seen, directed⟩ := directives_reads.sound sees.advance trivial directing
    obtain ⟨_, _, rfl, seen, opened⟩ := expect_sound seen opening (by decide)
    obtain ⟨_, rest, rfl, seen, listed⟩ := operationList_reads.sound seen trivial listing
    cases operations with
    | nil => exact (reject_accepted.mp checked).elim
    | cons operation operations =>
      simp only [List.isEmpty_cons, Bool.false_eq_true, ↓reduceIte, bind_accepted,
        spanFrom_accepted, pure_accepted] at checked
      obtain ⟨_, _, ⟨rfl, rfl⟩, rfl, rfl⟩ := checked
      exact ⟨_ :: _, rest, by simp, seen, .intro .intro directed opened (.intro listed)⟩
  complete := by
    intro cursor words rest tree sees derived ended
    obtain ⟨introduced, directed, opened, ⟨listed⟩⟩ := derived
    simp only [List.append_assoc] at sees
    obtain ⟨_, _, directing, seen, rfl⟩ := directives_reads.complete (introduced.pass sees)
      directed (opened.nextNot (by decide) _)
    obtain ⟨_, _, opening, seen⟩ := expect_complete .expectedSchemaBody seen opened
    obtain ⟨operations, last, listing, seen, same⟩ :=
      operationList_reads.complete seen listed (nextNot_nil _)
    cases operations with
    | nil => cases same
    | cons operation operations =>
      obtain ⟨rfl, rfl⟩ := List.cons.inj same
      exact ⟨_, last, accepted_bind rfl <| accepted_bind directing <| accepted_bind opening <|
        accepted_bind listing <| accepted_bind rfl rfl, seen, rfl⟩

/-- What is accepted for a keyword is the definition of that keyword. -/
theorem chosen_sound {α : Type} {production : Production α} {view : α → α} {phrase : Phrase α}
    {starts ends : List Reading → Prop} (reads : Reads production view phrase starts ends)
    {wrap : α → Definition} (erased : ∀ value, (wrap value).withoutSpans = wrap (view value))
    (body : ∀ {words tree}, phrase words tree → DefinitionBody described words (wrap tree))
    {cursor last : Cursor} {ahead : List Reading} {definition : Definition}
    (sees : cursor.Sees ahead) (started : starts ahead)
    (chosen : (do pure (wrap (← production)) : Production Definition) cursor =
      .accepted definition last) :
    ∃ words rest, ahead = words ++ rest ∧ last.Sees rest ∧
      DefinitionBody described words definition.withoutSpans := by
  obtain ⟨value, _, accepted, rfl, rfl⟩ := bind_accepted.mp chosen
  obtain ⟨words, rest, rfl, seen, given⟩ := reads.sound sees started accepted
  exact ⟨words, rest, rfl, seen, by rw [erased]; exact body given⟩

/-- The definition of a keyword is accepted for it. -/
theorem chosen_complete {α : Type} {production : Production α} {view : α → α} {phrase : Phrase α}
    {starts ends : List Reading → Prop} (reads : Reads production view phrase starts ends)
    (wrap : α → Definition) (erased : ∀ value, (wrap value).withoutSpans = wrap (view value))
    {cursor : Cursor} {words rest : List Reading} {tree : α}
    (sees : cursor.Sees (words ++ rest)) (given : phrase words tree) (ended : ends rest) :
    ∃ definition last, (do pure (wrap (← production)) : Production Definition) cursor =
      .accepted definition last ∧ last.Sees rest ∧ definition.withoutSpans = wrap tree := by
  obtain ⟨value, last, accepted, seen, rfl⟩ := reads.complete sees given ended
  exact ⟨wrap value, last, accepted_bind accepted rfl, seen, erased value⟩

/-- What is accepted behind a description is the definition of its keyword. -/
theorem definitionOf_sound {cursor last : Cursor} {ahead : List Reading}
    {definition : Definition} (sees : cursor.Sees ahead)
    (accepted : definitionOf first described cursor = .accepted definition last) :
    ∃ words rest, ahead = words ++ rest ∧ last.Sees rest ∧
      DefinitionBody described words definition.withoutSpans := by
  obtain ⟨_, _, peeked, chosen⟩ := bind_accepted.mp accepted
  obtain ⟨rfl, rfl⟩ := peek_accepted.mp peeked
  by_cases named : cursor.current.kind = .name
  · rw [if_neg (fun other => other named)] at chosen
    have starts {word : Text} (value : cursor.current.value = word) : StartsWith word ahead :=
      sees.startsWith_iff.mp ⟨named, value⟩
    -- One branch for each keyword, in the order of the tests; what is left is refused.
    by_cases schemaWord : cursor.current.value = ("schema" : Text)
    · rw [if_pos schemaWord] at chosen
      exact chosen_sound described (schemaBlock_reads first described) (fun _ => rfl) .schema
        sees (starts schemaWord) chosen
    rw [if_neg schemaWord] at chosen
    by_cases scalarWord : cursor.current.value = ("scalar" : Text)
    · rw [if_pos scalarWord] at chosen
      exact chosen_sound described (scalarType_reads first described) (fun _ => rfl) .scalar
        sees (starts scalarWord) chosen
    rw [if_neg scalarWord] at chosen
    by_cases typeWord : cursor.current.value = ("type" : Text)
    · rw [if_pos typeWord] at chosen
      exact chosen_sound described (fieldedType_reads first described "type" .type) (fun _ => rfl)
        .object sees (starts typeWord) chosen
    rw [if_neg typeWord] at chosen
    by_cases interfaceWord : cursor.current.value = ("interface" : Text)
    · rw [if_pos interfaceWord] at chosen
      exact chosen_sound described (fieldedType_reads first described "interface" .interface)
        (fun _ => rfl) .interface sees (starts interfaceWord) chosen
    rw [if_neg interfaceWord] at chosen
    by_cases unionWord : cursor.current.value = ("union" : Text)
    · rw [if_pos unionWord] at chosen
      exact chosen_sound described (unionType_reads first described) (fun _ => rfl) .union
        sees (starts unionWord) chosen
    rw [if_neg unionWord] at chosen
    by_cases enumWord : cursor.current.value = ("enum" : Text)
    · rw [if_pos enumWord] at chosen
      exact chosen_sound described (enumType_reads first described) (fun _ => rfl) .enum
        sees (starts enumWord) chosen
    rw [if_neg enumWord] at chosen
    by_cases inputWord : cursor.current.value = ("input" : Text)
    · rw [if_pos inputWord] at chosen
      exact chosen_sound described (inputType_reads first described) (fun _ => rfl) .inputObject
        sees (starts inputWord) chosen
    rw [if_neg inputWord] at chosen
    by_cases directiveWord : cursor.current.value = ("directive" : Text)
    · rw [if_pos directiveWord] at chosen
      exact chosen_sound described (directiveDeclaration_reads first described) (fun _ => rfl)
        .directive sees (starts directiveWord) chosen
    rw [if_neg directiveWord] at chosen
    split at chosen
    · cases chosen
    · split at chosen
      · exact (reject_accepted.mp chosen).elim
      · exact (reject_accepted.mp chosen).elim
  · rw [if_pos named] at chosen
    exact (reject_accepted.mp chosen).elim

/-- A definition is accepted by its keyword, if it has ended. -/
theorem definitionOf_complete {cursor : Cursor} {words rest : List Reading} {tree : Definition}
    (sees : cursor.Sees (words ++ rest)) (derived : DefinitionBody described words tree)
    (ended : DefinitionEnds rest) :
    ∃ definition last, definitionOf first described cursor = .accepted definition last ∧
      last.Sees rest ∧ definition.withoutSpans = tree := by
  obtain ⟨named, keyword⟩ := sees.startsWith_iff.mpr (derived.startsWith rest)
  cases derived with
  | schema given =>
    have value : cursor.current.value = ("schema" : Text) := keyword
    obtain ⟨_, last, chosen, seen, same⟩ :=
      chosen_complete (schemaBlock_reads first described) .schema (fun _ => rfl) sees given ended
    refine ⟨_, last, accepted_bind rfl ?_, seen, same⟩
    simp +decide only [named, value]
    exact chosen
  | scalar given =>
    have value : cursor.current.value = ("scalar" : Text) := keyword
    obtain ⟨_, last, chosen, seen, same⟩ :=
      chosen_complete (scalarType_reads first described) .scalar (fun _ => rfl) sees given ended
    refine ⟨_, last, accepted_bind rfl ?_, seen, same⟩
    simp +decide only [named, value]
    exact chosen
  | object given =>
    have value : cursor.current.value = ("type" : Text) := keyword
    obtain ⟨_, last, chosen, seen, same⟩ :=
      chosen_complete (fieldedType_reads first described "type" .type) .object
        (fun _ => rfl) sees given ended
    refine ⟨_, last, accepted_bind rfl ?_, seen, same⟩
    simp +decide only [named, value]
    exact chosen
  | interface given =>
    have value : cursor.current.value = ("interface" : Text) := keyword
    obtain ⟨_, last, chosen, seen, same⟩ :=
      chosen_complete (fieldedType_reads first described "interface" .interface) .interface
        (fun _ => rfl) sees given ended
    refine ⟨_, last, accepted_bind rfl ?_, seen, same⟩
    simp +decide only [named, value]
    exact chosen
  | union given =>
    have value : cursor.current.value = ("union" : Text) := keyword
    obtain ⟨_, last, chosen, seen, same⟩ :=
      chosen_complete (unionType_reads first described) .union (fun _ => rfl) sees given ended
    refine ⟨_, last, accepted_bind rfl ?_, seen, same⟩
    simp +decide only [named, value]
    exact chosen
  | enum given =>
    have value : cursor.current.value = ("enum" : Text) := keyword
    obtain ⟨_, last, chosen, seen, same⟩ :=
      chosen_complete (enumType_reads first described) .enum (fun _ => rfl) sees given ended
    refine ⟨_, last, accepted_bind rfl ?_, seen, same⟩
    simp +decide only [named, value]
    exact chosen
  | inputObject given =>
    have value : cursor.current.value = ("input" : Text) := keyword
    obtain ⟨_, last, chosen, seen, same⟩ :=
      chosen_complete (inputType_reads first described) .inputObject (fun _ => rfl) sees given ended
    refine ⟨_, last, accepted_bind rfl ?_, seen, same⟩
    simp +decide only [named, value]
    exact chosen
  | directive given =>
    have value : cursor.current.value = ("directive" : Text) := keyword
    obtain ⟨_, last, chosen, seen, same⟩ :=
      chosen_complete (directiveDeclaration_reads first described) .directive
        (fun _ => rfl) sees given ended
    refine ⟨_, last, accepted_bind rfl ?_, seen, same⟩
    simp +decide only [named, value]
    exact chosen

end Definitions

/-- A definition with its description. -/
theorem definition_reads :
    Reads definition Definition.withoutSpans DefinitionPhrase Anywhere DefinitionEnds where
  sound := by
    intro cursor last ahead value sees _ accepted
    simp only [definition, bind_accepted, peek_accepted] at accepted
    obtain ⟨_, _, ⟨rfl, rfl⟩, description, _, describing, chosen⟩ := accepted
    obtain ⟨_, _, rfl, seen, described⟩ := description_reads.sound sees trivial describing
    obtain ⟨_, rest, rfl, seen, body⟩ := definitionOf_sound _ _ seen chosen
    exact ⟨_, rest, by simp, seen, .intro described body⟩
  complete := by
    intro cursor words rest tree sees derived ended
    obtain ⟨described, body⟩ := derived
    rw [List.append_assoc] at sees
    obtain ⟨_, _, describing, seen, rfl⟩ :=
      description_reads.complete sees described ((body.startsWith rest).nextNot (by decide))
    obtain ⟨_, last, chosen, seen, same⟩ := definitionOf_complete cursor.current _ seen body ended
    exact ⟨_, last, accepted_bind rfl <| accepted_bind describing chosen, seen, same⟩

/-- A definition may come behind another: its first word belongs to none before it. -/
theorem DefinitionPhrase.ends {words : List Reading} {tree : Definition}
    (derived : DefinitionPhrase words tree) (rest : List Reading) :
    DefinitionEnds (words ++ rest) := by
  obtain ⟨described, body⟩ := derived
  rw [List.append_assoc]
  cases described with
  | missing =>
    have starts := body.startsWith rest
    refine ⟨starts.nextNot (by decide), ?_⟩
    rintro ⟨_, same⟩
    obtain ⟨_, keyword⟩ := starts
    exact tree.keyword_ne_implements
      (congrArg Prod.snd (List.cons.inj (keyword.symm.trans same)).1)
  | @given kind quoted value =>
    constructor
    · change kind ∉ _
      revert quoted
      cases kind <;> decide
    · refine not_startsWith ?_ _
      rintro rfl
      cases quoted

/-- The end of input may come behind a definition. -/
theorem definitionEnds_nil : DefinitionEnds [] := by
  constructor
  · change TokenKind.endOfInput ∉ _
    decide
  · rintro ⟨_, same⟩
    cases same

/-- A definition has at least one word. -/
theorem DefinitionPhrase.length_pos {words : List Reading} {tree : Definition}
    (derived : DefinitionPhrase words tree) : 0 < words.length := by
  obtain ⟨described, body⟩ := derived
  obtain ⟨others, same⟩ := body.startsWith []
  rw [List.append_nil] at same
  simp only [same, List.length_append, List.length_cons]
  omega

/-! ## Documents -/

/-- The words of tokens, without those of comments. -/
def wordsOf (tokens : List Token) : List Reading :=
  (tokens.filter (fun token => decide (token.kind ≠ .comment))).map Token.reading

/-- A cursor before some tokens sees their words. -/
theorem Cursor.sees_ofTokens {finish : Token} (ended : finish.kind = .endOfInput)
    (tokens : List Token) : (Cursor.ofTokens tokens finish).Sees (wordsOf tokens) :=
  ⟨rfl, ended⟩

namespace DocumentReading

/-- A reading without errors has read a document. -/
theorem ofCursor_sound {cursor : Cursor} {ahead : List Reading} (sees : cursor.Sees ahead)
    (fine : (ofCursor cursor).errors = []) :
    DocumentPhrase ahead ((ofCursor cursor).definitions.map Definition.withoutSpans) := by
  induction counted : cursor.rest.length using Nat.strongRecOn generalizing cursor ahead with
  | ind size inductionHypothesis =>
    rw [ofCursor] at fine ⊢
    split at fine
    · next none =>
      obtain rfl : ahead = [] := by rw [← sees.words, none]; rfl
      exact .none
    · split at fine
      · next value moved accepted =>
        obtain ⟨words, rest, rfl, seen, derived⟩ := definition_reads.sound sees trivial accepted
        have fewer : moved.rest.length < cursor.rest.length := by
          have positive := derived.length_pos
          rw [seen.length, sees.length, List.length_append]
          omega
        rw [if_pos fewer] at fine ⊢
        exact .more derived (inductionHypothesis _ (counted ▸ fewer) seen fine rfl)
      · split at fine <;> cases fine

/-- A document is read without errors, and its trees are found. -/
theorem ofCursor_complete {cursor : Cursor} {ahead : List Reading} {trees : List Definition}
    (sees : cursor.Sees ahead) (derived : DocumentPhrase ahead trees) :
    (ofCursor cursor).errors = [] ∧
      (ofCursor cursor).definitions.map Definition.withoutSpans = trees := by
  induction derived generalizing cursor with
  | none =>
    have none : cursor.rest = [] := by simpa using sees.words
    rw [ofCursor]
    simp [none, empty]
  | @more words others tree trees first further inductionHypothesis =>
    have ended : DefinitionEnds others := by
      cases further with
      | none => exact definitionEnds_nil
      | more second _ => exact second.ends _
    obtain ⟨value, moved, accepted, seen, rfl⟩ := definition_reads.complete sees first ended
    obtain ⟨fine, rfl⟩ := inductionHypothesis seen
    have fewer : moved.rest.length < cursor.rest.length := by
      have positive := first.length_pos
      rw [seen.length, sees.length, List.length_append]
      omega
    rw [ofCursor]
    split
    · next none => simp [none] at fewer
    · rw [accepted]
      simp only [fewer, ↓reduceIte]
      exact ⟨fine, rfl⟩

end DocumentReading

/-- Tokens have definitions exactly if reading them finds no error. -/
theorem definitionsOfTokens_eq_ok {body : List Token} {finish : Token}
    {definitions : List Definition} :
    definitionsOfTokens (body ++ [finish]) = .ok definitions ↔
      (DocumentReading.ofCursor (Cursor.ofTokens body finish)).errors = [] ∧
        (DocumentReading.ofCursor (Cursor.ofTokens body finish)).definitions = definitions := by
  simp only [definitionsOfTokens, List.dropLast_concat, List.getLastD_concat]
  split
  · next fine => simp [fine]
  · next first others found => simp [found]

/-- The tokens of a text are taken for exactly the documents of the grammar, and what is
found is the only tree that the words spell. Places and comments do not matter: the words
of the tokens decide alone. -/
theorem definitionsOfTokens_exact (body : List Token) (finish : Token)
    (ended : finish.kind = .endOfInput) :
    ((∃ definitions, definitionsOfTokens (body ++ [finish]) = .ok definitions) ↔
        ∃ trees, DocumentPhrase (wordsOf body) trees) ∧
      ∀ definitions, definitionsOfTokens (body ++ [finish]) = .ok definitions →
        ∀ trees, DocumentPhrase (wordsOf body) trees ↔
          trees = definitions.map Definition.withoutSpans := by
  have sees := Cursor.sees_ofTokens ended body
  refine ⟨⟨?_, ?_⟩, ?_⟩
  · rintro ⟨definitions, accepted⟩
    obtain ⟨fine, -⟩ := definitionsOfTokens_eq_ok.mp accepted
    exact ⟨_, DocumentReading.ofCursor_sound sees fine⟩
  · rintro ⟨trees, derived⟩
    obtain ⟨fine, -⟩ := DocumentReading.ofCursor_complete sees derived
    exact ⟨_, definitionsOfTokens_eq_ok.mpr ⟨fine, rfl⟩⟩
  · intro definitions accepted trees
    obtain ⟨fine, rfl⟩ := definitionsOfTokens_eq_ok.mp accepted
    constructor
    · intro derived
      exact (DocumentReading.ofCursor_complete sees derived).2.symm
    · rintro rfl
      exact DocumentReading.ofCursor_sound sees fine

/-- A keyword names a scalar, and a comment stands between the two words. -/
theorem definitionsOfTokens_keyword_as_name :
    ∃ definitions,
      definitionsOfTokens
          ([⟨.name, "scalar", 1, 1, 0, 6⟩, ⟨.comment, "# a", 1, 8, 7, 10⟩,
            ⟨.name, "type", 2, 1, 11, 15⟩] ++ [⟨.endOfInput, "", 2, 5, 15, 15⟩]) =
        .ok definitions ∧
      definitions.map Definition.withoutSpans = [.scalar ⟨"type", [], none, .unknown⟩] := by
  obtain ⟨accepts, unique⟩ := definitionsOfTokens_exact
    [⟨.name, "scalar", 1, 1, 0, 6⟩, ⟨.comment, "# a", 1, 8, 7, 10⟩,
      ⟨.name, "type", 2, 1, 11, 15⟩] ⟨.endOfInput, "", 2, 5, 15, 15⟩ rfl
  have scalar : ScalarTypePhrase none [(.name, "scalar"), (.name, "type")]
      ⟨"type", [], none, .unknown⟩ := ScalarTypePhrase.intro .intro (.intro "type") .none
  have derived : DocumentPhrase [(.name, "scalar"), (.name, "type")]
      [.scalar ⟨"type", [], none, .unknown⟩] :=
    Repeated.more (DefinitionPhrase.intro .missing (.scalar scalar)) .none
  obtain ⟨definitions, accepted⟩ := accepts.mpr ⟨_, derived⟩
  exact ⟨definitions, accepted, ((unique definitions accepted _).mp derived).symm⟩

end SchemaForge

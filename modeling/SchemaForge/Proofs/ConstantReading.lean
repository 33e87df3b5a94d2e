import SchemaForge.Proofs.PhraseReading
import SchemaForge.Proofs.SpanErasure
import SchemaForge.Schema.Grammar

/-!
# Reading types and constants

The two recursive parts of the grammar. Both productions call themselves on fewer
tokens, so both are related to their phrases by induction on the number of tokens
ahead; the items of a list or an object are below that number, and the loop over
them needs no induction of its own.

A type must not be followed by an exclamation mark. A constant ends by itself.
-/

namespace SchemaForge

open Production Grammar

/-- The first token ahead reads as the first word, and what is behind it as the others. -/
theorem Cursor.Sees.of_rest {cursor : Cursor} {ahead : List Reading} {token : Token}
    {tokens : List Token} (sees : cursor.Sees ahead) (first : cursor.rest = token :: tokens) :
    ∃ others, ahead = (token.kind, token.value) :: others ∧ cursor.current = token := by
  obtain ⟨rfl, -⟩ := sees
  refine ⟨tokens.map Token.reading, ?_, ?_⟩
  · rw [first]
    rfl
  · rw [Cursor.current, first]
    rfl

/-- A word ahead is that of a token ahead. -/
theorem Cursor.Sees.exists_rest {cursor : Cursor} {word : Reading} {others : List Reading}
    (sees : cursor.Sees (word :: others)) : ∃ tokens, cursor.rest = cursor.current :: tokens := by
  cases rest : cursor.rest with
  | nil =>
    have none := sees.words
    rw [rest] at none
    cases none
  | cons token tokens => exact ⟨tokens, by rw [Cursor.current, rest]; rfl⟩

/-! ## Types -/

/-- There are two kinds of string. -/
theorem isString_eq_false {kind : TokenKind} (other : kind ∉ [TokenKind.string, .blockString]) :
    kind.isString = false := by
  cases kind <;> first | rfl | exact absurd (by decide) other

/-- A description is a string, if the next word is one. -/
theorem description_reads :
    Reads description id DescriptionPhrase Anywhere (NextNot [.string, .blockString]) where
  sound := by
    intro cursor last ahead value sees _ accepted
    simp only [description, bind_accepted, peek_accepted] at accepted
    obtain ⟨_, _, ⟨rfl, rfl⟩, given⟩ := accepted
    split at given
    · next isString =>
      simp only [bind_accepted, advance_accepted, pure_accepted] at given
      obtain ⟨_, _, ⟨rfl, rfl⟩, rfl, rfl⟩ := given
      rw [Token.isString, sees.kind] at isString
      cases ahead with
      | nil => cases isString
      | cons word rest =>
        refine ⟨[word], rest, rfl, sees.advance, ?_⟩
        rw [sees.value]
        exact .given isString word.2
    · obtain ⟨rfl, rfl⟩ := pure_accepted.mp given
      exact ⟨[], ahead, rfl, sees, .missing⟩
  complete := by
    intro cursor words rest tree sees derived ended
    cases derived with
    | missing =>
      have different : cursor.current.isString = false := by
        rw [Token.isString, sees.kind]
        exact isString_eq_false ended
      refine ⟨none, cursor, accepted_bind rfl ?_, sees, rfl⟩
      simp only [different]
      rfl
    | given quoted value =>
      have isString : cursor.current.isString = true := by
        rw [Token.isString, sees.kind]
        exact quoted
      refine ⟨some cursor.current.value, _, accepted_bind rfl ?_, sees.advance,
        congrArg some sees.value⟩
      simp only [isString]
      rfl

/-- A type by its name is one word. -/
theorem namedType_reads :
    Reads namedType NamedType.withoutSpans NamedTypePhrase Anywhere (NextNot []) where
  sound := by
    intro cursor last ahead type sees _ accepted
    simp only [namedType, bind_accepted, spanFrom_accepted, pure_accepted] at accepted
    obtain ⟨token, _, named, _, _, ⟨rfl, rfl⟩, rfl, rfl⟩ := accepted
    obtain ⟨words, rest, rfl, seen, derived⟩ := (expectName_reads _).sound sees trivial named
    exact ⟨words, rest, rfl, seen, .intro derived⟩
  complete := by
    intro cursor words rest tree sees derived ended
    obtain ⟨named⟩ := derived
    obtain ⟨token, last, accepted, seen, rfl⟩ := (expectName_reads .type).complete sees named ended
    exact ⟨_, last, accepted_bind accepted (accepted_bind rfl rfl), seen, rfl⟩

/-- An exclamation mark is taken if it is there, and a bare type becomes a type. -/
theorem nullability_sound {first : Token} {type value : TypeReference} {cursor last : Cursor}
    {before ahead : List Reading} (bare : BareTypePhrase before type.withoutSpans)
    (sees : cursor.Sees ahead) (accepted : nullability first type cursor = .accepted value last) :
    ∃ words rest, ahead = words ++ rest ∧ last.Sees rest ∧
      TypePhrase (before ++ words) value.withoutSpans := by
  simp only [nullability, bind_accepted, accept_accepted] at accepted
  obtain ⟨_, moved, ⟨matched, rfl, rfl⟩ | ⟨_, rfl, rfl⟩, behind⟩ := accepted
  · simp only [↓reduceIte, bind_accepted, spanFrom_accepted, pure_accepted] at behind
    obtain ⟨_, _, ⟨rfl, rfl⟩, rfl, rfl⟩ := behind
    obtain ⟨spelling, rest, rfl⟩ := exists_of_nextKind (sees.kind.symm.trans matched) (by decide)
    exact ⟨[(.bang, spelling)], rest, rfl, sees.advance, .nonNull bare (.intro spelling)⟩
  · obtain ⟨rfl, rfl⟩ := pure_accepted.mp behind
    exact ⟨[], ahead, rfl, sees, by rw [List.append_nil]; exact .nullable bare⟩

/-- Without an exclamation mark the type stays as it is. -/
theorem nullability_absent (first : Token) (type : TypeReference) {cursor : Cursor}
    {rest : List Reading} (sees : cursor.Sees rest) (ended : NextNot [.bang] rest) :
    nullability first type cursor = .accepted type cursor := by
  have different : cursor.current.kind ≠ .bang := by
    rw [sees.kind]
    intro same
    exact ended (List.mem_singleton.mpr same)
  exact accepted_bind (accept_accepted.mpr (.inr ⟨different, rfl, rfl⟩)) rfl

/-- An exclamation mark wraps the type. -/
theorem nullability_present (first : Token) (type : TypeReference) {cursor : Cursor}
    {mark rest : List Reading} (sees : cursor.Sees (mark ++ rest)) (marked : Mark .bang mark) :
    ∃ span last, nullability first type cursor = .accepted (.nonNull type span) last ∧
      last.Sees rest := by
  obtain ⟨spelling⟩ := marked
  exact ⟨_, _, accepted_bind (accept_accepted.mpr (.inl ⟨sees.kind, rfl, rfl⟩))
    (accepted_bind rfl rfl), sees.advance⟩

/-- Behind an opening bracket comes the type of the elements. -/
theorem typeReference_bracketed {cursor : Cursor} {spelling : Text} {others : List Reading}
    (sees : cursor.Sees ((.leftBracket, spelling) :: others)) :
    typeReference cursor = (do
      let element ← typeReference
      let _ ← expect .rightBracket .unclosedListType
      nullability cursor.current (.list element (← spanFrom cursor.current)) :
        Production TypeReference) cursor.advance := by
  have bracket : cursor.current.kind = .leftBracket := sees.kind
  obtain ⟨tokens, first⟩ := sees.exists_rest
  rw [typeReference]
  split
  · next token _ ahead =>
    obtain ⟨same, rfl⟩ := List.cons.inj (first.symm.trans ahead)
    rw [same] at bracket ⊢
    rw [if_pos bracket]
    simp only [bind]
    cases typeReference cursor.advance <;> rfl
  · next ahead => exact absurd (first.symm.trans ahead) (List.cons_ne_nil _ _)

/-- A type that does not begin with a bracket is a name. At the end of input neither
side is accepted. -/
theorem typeReference_bare {cursor : Cursor} {ahead : List Reading} (sees : cursor.Sees ahead)
    (different : nextKind ahead ≠ .leftBracket) :
    typeReference cursor =
      (do nullability cursor.current (.named (← namedType)) : Production TypeReference) cursor := by
  have other : cursor.current.kind ≠ .leftBracket := by
    rw [sees.kind]
    exact different
  rw [typeReference]
  split
  · next token _ rest =>
    obtain ⟨others, -, same⟩ := sees.of_rest rest
    rw [same] at other ⊢
    rw [if_neg other]
  · next rest =>
    have refused : cursor.current.kind ≠ .name := by
      rw [Cursor.current, rest]
      change cursor.finish.kind ≠ .name
      rw [sees.finish]
      decide
    simp [namedType, expectName, expect, refused, bind]

mutual

/-- A bare type leaves only the exclamation mark to be decided. -/
theorem typeReference_bareType {words : List Reading} {tree : TypeReference}
    (derived : BareTypePhrase words tree) {cursor : Cursor} {rest : List Reading}
    (sees : cursor.Sees (words ++ rest)) :
    ∃ type moved, typeReference cursor = nullability cursor.current type moved ∧
      moved.Sees rest ∧ type.withoutSpans = tree := by
  cases derived with
  | named mention =>
    have different : nextKind (words ++ rest) ≠ .leftBracket := by
      obtain ⟨⟨name⟩⟩ := mention
      exact TokenKind.noConfusion
    obtain ⟨type, moved, accepted, seen, rfl⟩ :=
      namedType_reads.complete sees mention (nextNot_nil _)
    refine ⟨.named type, moved, ?_, seen, rfl⟩
    rw [typeReference_bare sees different]
    simp only [bind, accepted]
  | list opened inner closed =>
    obtain ⟨spelling⟩ := opened
    rw [List.singleton_append, List.cons_append, List.append_assoc] at sees
    have bracketed := typeReference_bracketed sees
    obtain ⟨element, moved, accepted, seen, rfl⟩ :=
      typeReference_complete inner sees.advance (closed.nextNot (by decide) rest)
    obtain ⟨token, last, closing, seen⟩ := expect_complete .unclosedListType seen closed
    refine ⟨.list element (last.spanFrom cursor.current), last, ?_, seen, rfl⟩
    rw [bracketed]
    simp only [bind, accepted, closing, spanFrom]

/-- A type is accepted if no exclamation mark comes behind it. -/
theorem typeReference_complete {words : List Reading} {tree : TypeReference}
    (derived : TypePhrase words tree) {cursor : Cursor} {rest : List Reading}
    (sees : cursor.Sees (words ++ rest)) (ended : NextNot [.bang] rest) :
    ∃ value last, typeReference cursor = .accepted value last ∧ last.Sees rest ∧
      value.withoutSpans = tree := by
  cases derived with
  | nullable bare =>
    obtain ⟨type, moved, same, seen, rfl⟩ := typeReference_bareType bare sees
    exact ⟨type, moved, same.trans (nullability_absent _ _ seen ended), seen, rfl⟩
  | nonNull bare marked =>
    rw [List.append_assoc] at sees
    obtain ⟨type, moved, same, seen, rfl⟩ := typeReference_bareType bare sees
    obtain ⟨span, last, accepted, seen⟩ := nullability_present cursor.current type seen marked
    exact ⟨.nonNull type span, last, same.trans accepted, seen, rfl⟩

end

/-- What is accepted as a type is one: by induction on the tokens ahead, since the
element type of a list is read behind the bracket. -/
theorem typeReference_sound {cursor last : Cursor} {ahead : List Reading} {value : TypeReference}
    (sees : cursor.Sees ahead) (accepted : typeReference cursor = .accepted value last) :
    ∃ words rest, ahead = words ++ rest ∧ last.Sees rest ∧
      TypePhrase words value.withoutSpans := by
  induction counted : cursor.rest.length using Nat.strongRecOn
    generalizing cursor last ahead value with
  | ind size inductionHypothesis =>
    by_cases bracket : nextKind ahead = .leftBracket
    · obtain ⟨spelling, others, rfl⟩ := exists_of_nextKind bracket (by decide)
      have fewer : cursor.advance.rest.length < size := by
        rw [← counted]
        exact sees.fewer
      simp only [typeReference_bracketed sees, bind_accepted, spanFrom_accepted] at accepted
      obtain ⟨element, _, inner, _, _, closing, _, _, ⟨rfl, rfl⟩, marked⟩ := accepted
      obtain ⟨words, rest, rfl, seen, derived⟩ :=
        inductionHypothesis _ fewer sees.advance inner rfl
      obtain ⟨closer, rest, rfl, seen, closed⟩ := expect_sound seen closing (by decide)
      obtain ⟨mark, rest, rfl, seen, typed⟩ :=
        nullability_sound (.list (.intro spelling) derived closed) seen marked
      exact ⟨_, rest, by simp, seen, typed⟩
    · simp only [typeReference_bare sees bracket, bind_accepted] at accepted
      obtain ⟨type, _, named, marked⟩ := accepted
      obtain ⟨words, rest, rfl, seen, derived⟩ := namedType_reads.sound sees trivial named
      obtain ⟨mark, rest, rfl, seen, typed⟩ := nullability_sound (.named derived) seen marked
      exact ⟨_, rest, by simp, seen, typed⟩

/-- A type is accepted exactly if it is one. -/
theorem typeReference_reads :
    Reads typeReference TypeReference.withoutSpans TypePhrase Anywhere (NextNot [.bang]) :=
  ⟨fun sees _ accepted => typeReference_sound sees accepted,
    fun sees derived ended => typeReference_complete derived sees ended⟩

/-! ## Constants -/

/-- The value that is spelled by one word. -/
def leafValue (span : Span) : Reading → Option Value
  | (.string, text) => some (.string text span false)
  | (.blockString, text) => some (.string text span true)
  | (.int, digits) => some (.int digits span)
  | (.float, digits) => some (.float digits span)
  | (.name, symbol) =>
    if symbol = "true" then some (.boolean true span)
    else if symbol = "false" then some (.boolean false span)
    else if symbol = "null" then some (.null span)
    else some (.enum symbol span)
  | _ => none

/-- A word that spells a value is a constant. -/
theorem leafValue_sound {word : Reading} {span : Span} {value : Value}
    (spelled : leafValue span word = some value) : ConstantPhrase [word] value.withoutSpans := by
  unfold leafValue at spelled
  split at spelled
  · cases spelled; exact .string _
  · cases spelled; exact .blockString _
  · cases spelled; exact .int _
  · cases spelled; exact .float _
  · next symbol =>
    by_cases literal : symbol ∈ literalNames
    · simp only [literalNames, List.mem_cons, List.not_mem_nil, or_false] at literal
      obtain rfl | rfl | rfl := literal
      · cases spelled; exact .yes
      · cases spelled; exact .no
      · cases spelled; exact .null
    · have free := literal
      simp only [literalNames, List.mem_cons, List.not_mem_nil, or_false, not_or] at literal
      simp only [literal, ↓reduceIte, Option.some.injEq] at spelled
      subst spelled
      exact .enum symbol free
  · cases spelled

/-- A constant that opens no bracket is the value of its one word. -/
theorem constant_leaf {cursor last : Cursor} {word : Reading} {others : List Reading}
    {value : Value} (sees : cursor.Sees (word :: others))
    (noList : word.1 ≠ .leftBracket) (noObject : word.1 ≠ .leftBrace) :
    constant cursor = .accepted value last ↔
      leafValue (cursor.advance.spanFrom cursor.current) word = some value ∧
        cursor.advance = last := by
  obtain ⟨kind, text⟩ := word
  have reading := sees.current
  obtain ⟨tokens, first⟩ := sees.exists_rest
  rw [constant]
  split
  · next ahead => exact absurd (first.symm.trans ahead) (List.cons_ne_nil _ _)
  · next token _ ahead =>
    obtain ⟨same, rfl⟩ := List.cons.inj (first.symm.trans ahead)
    rw [same] at reading ⊢
    obtain ⟨sameKind, rfl⟩ := Prod.mk.inj reading
    cases kind with
    | leftBracket => exact absurd rfl noList
    | leftBrace => exact absurd rfl noObject
    | name =>
      simp only [sameKind, leafValue]
      split
      · simp
      · split
        · simp
        · split <;> simp
    | _ => simp [sameKind, leafValue, reject]

/-- Behind an opening bracket come the values of a list. -/
theorem constant_list {cursor last : Cursor} {spelling : Text} {others : List Reading}
    {value : Value} (sees : cursor.Sees ((.leftBracket, spelling) :: others))
    (fewer : cursor.advance.rest.length < cursor.rest.length) :
    constant cursor = .accepted value last ↔ ∃ values before,
      collect (fun token => decide (token.kind ≠ .rightBracket)) cursor.rest.length
          (fun inner _ => constant inner) cursor.advance fewer = .accepted values before ∧
        .list values (before.advance.spanFrom cursor.current) = value ∧
          before.advance = last := by
  have kind : cursor.current.kind = .leftBracket := sees.kind
  obtain ⟨tokens, first⟩ := sees.exists_rest
  rw [constant]
  split
  · next ahead => exact absurd (first.symm.trans ahead) (List.cons_ne_nil _ _)
  · next token _ ahead =>
    obtain ⟨same, rfl⟩ := List.cons.inj (first.symm.trans ahead)
    rw [same] at kind ⊢
    simp only [kind]
    generalize collect _ _ _ _ _ = listed
    cases listed <;> simp [and_assoc]

/-- Behind an opening brace come the fields of an object. -/
theorem constant_object {cursor last : Cursor} {spelling : Text} {others : List Reading}
    {value : Value} (sees : cursor.Sees ((.leftBrace, spelling) :: others))
    (fewer : cursor.advance.rest.length < cursor.rest.length) :
    constant cursor = .accepted value last ↔ ∃ fields before,
      collect (fun token => decide (token.kind ≠ .rightBrace)) cursor.rest.length
          (fun field _ => objectField field (fun inner _ => constant inner)) cursor.advance
          fewer = .accepted fields before ∧
        .object fields (before.advance.spanFrom cursor.current) = value ∧
          before.advance = last := by
  have kind : cursor.current.kind = .leftBrace := sees.kind
  obtain ⟨tokens, first⟩ := sees.exists_rest
  rw [constant]
  split
  · next ahead => exact absurd (first.symm.trans ahead) (List.cons_ne_nil _ _)
  · next token _ ahead =>
    obtain ⟨same, rfl⟩ := List.cons.inj (first.symm.trans ahead)
    rw [same] at kind ⊢
    simp only [kind]
    generalize collect _ _ _ _ _ = listed
    cases listed <;> simp [and_assoc]

/-- The kinds of word that a constant begins with. -/
def constantKinds : List TokenKind :=
  [.string, .blockString, .int, .float, .name, .leftBracket, .leftBrace]

/-- A constant begins with its word or its bracket. -/
theorem constant_begins : BeginsWith constantKinds ConstantPhrase := by
  intro words tree derived
  cases derived with
  | list opened given =>
    obtain ⟨spelling⟩ := opened
    exact ⟨_, _, rfl, by simp [constantKinds]⟩
  | object opened given =>
    obtain ⟨spelling⟩ := opened
    exact ⟨_, _, rfl, by simp [constantKinds]⟩
  | _ => exact ⟨_, _, rfl, by simp [constantKinds]⟩

/-- A field of an object begins with its name. -/
theorem objectField_begins : BeginsWith [.name] ObjectFieldPhrase := by
  rintro words tree ⟨⟨name⟩, divided, given⟩
  exact ⟨_, _, rfl, List.mem_singleton_self _⟩

/-- Constants are read where fewer tokens than a limit are ahead. -/
abbrev ConstantsWithin (limit : Nat) : Prop :=
  ReadsWithin limit (fun inner _ => constant inner) Value.withoutSpans ConstantPhrase
    (fun _ => true) (NextNot [])

/-- A field of an object is read as soon as constants are, below the same limit. -/
theorem objectField_within {limit : Nat} (reads : ConstantsWithin limit) :
    ReadsWithin limit (fun field _ => objectField field (fun inner _ => constant inner))
      ObjectField.withoutSpans ObjectFieldPhrase (fun _ => true) (NextNot []) where
  sound := by
    intro cursor last ahead field within sees _ accepted
    simp only [objectField, bind_accepted, spanFrom_accepted, pure_accepted] at accepted
    obtain ⟨name, _, naming, _, before, dividing, value, _, valued, _, _, ⟨rfl, rfl⟩, rfl, rfl⟩ :=
      accepted
    obtain ⟨words, rest, rfl, seen, named⟩ := (expectName_reads _).sound sees trivial naming
    obtain ⟨colon, rest, rfl, seen, divided⟩ := expect_sound seen dividing (by decide)
    split at valued
    · next fewer =>
      obtain ⟨spelled, rest, rfl, seen, given⟩ :=
        reads.sound (Nat.lt_trans fewer within) seen rfl valued
      exact ⟨_, rest, by simp, seen, .intro named divided given⟩
    · exact (reject_accepted.mp valued).elim
  complete := by
    intro cursor words rest tree within sees derived ended
    obtain ⟨named, divided, given⟩ := derived
    simp only [List.append_assoc] at sees
    obtain ⟨name, _, naming, seen, rfl⟩ :=
      (expectName_reads .objectField).complete sees named (nextNot_nil _)
    obtain ⟨_, before, dividing, seen⟩ :=
      expect_complete (.expectedColonAfter name.value) seen divided
    have fewer : before.rest.length < cursor.rest.length := by
      obtain ⟨name⟩ := named
      rw [seen.length, sees.length]
      simp only [List.length_append, List.length_cons]
      omega
    obtain ⟨value, last, valued, seen, rfl⟩ :=
      reads.complete (Nat.lt_trans fewer within) seen given ended
    refine ⟨_, last, accepted_bind naming <| accepted_bind dividing <|
      accepted_bind ?_ <| accepted_bind rfl rfl, seen, rfl⟩
    rw [dif_pos fewer]
    exact valued

/-- Where there is no word there is no constant. -/
theorem constant_nil {cursor last : Cursor} {value : Value} (sees : cursor.Sees [])
    (accepted : constant cursor = .accepted value last) : False := by
  have none : cursor.rest = [] := by simpa using sees.words
  rw [constant] at accepted
  split at accepted
  · exact reject_accepted.mp accepted
  · next some => cases none.symm.trans some

/-- What is accepted as a constant is one, if the constants inside it are. -/
theorem constant_sound {cursor last : Cursor} {ahead : List Reading} {value : Value}
    (inside : ConstantsWithin cursor.rest.length) (sees : cursor.Sees ahead)
    (accepted : constant cursor = .accepted value last) :
    ∃ words rest, ahead = words ++ rest ∧ last.Sees rest ∧
      ConstantPhrase words value.withoutSpans := by
  cases ahead with
  | nil => exact (constant_nil sees accepted).elim
  | cons word others =>
    obtain ⟨kind, spelling⟩ := word
    by_cases list : kind = .leftBracket
    · subst list
      obtain ⟨values, before, looped, rfl, rfl⟩ := (constant_list sees sees.fewer).mp accepted
      obtain ⟨words, rest, rfl, seen, given⟩ :=
        collectUntil_sound inside constant_begins (by decide) sees.advance looped
      refine ⟨_ :: words, rest, rfl, seen, ?_⟩
      rw [Value.withoutSpans, Value.eraseAll_eq_map]
      exact .list (.intro spelling) given
    · by_cases object : kind = .leftBrace
      · subst object
        obtain ⟨fields, before, looped, rfl, rfl⟩ :=
          (constant_object sees sees.fewer).mp accepted
        obtain ⟨words, rest, rfl, seen, given⟩ := collectUntil_sound
          (objectField_within inside) objectField_begins (by decide) sees.advance looped
        refine ⟨_ :: words, rest, rfl, seen, ?_⟩
        rw [Value.withoutSpans, ObjectField.eraseAll_eq_map]
        exact .object (.intro spelling) given
      · obtain ⟨spelled, rfl⟩ := (constant_leaf sees list object).mp accepted
        exact ⟨[_], others, rfl, sees.advance, leafValue_sound spelled⟩

/-- A word is accepted with the value that it spells. -/
theorem constant_spelled {cursor : Cursor} {word : Reading} {rest : List Reading} {tree : Value}
    (sees : cursor.Sees (word :: rest)) (noList : word.1 ≠ .leftBracket)
    (noObject : word.1 ≠ .leftBrace)
    (spelled : ∀ span, ∃ value, leafValue span word = some value ∧ value.withoutSpans = tree) :
    ∃ value last, constant cursor = .accepted value last ∧ last.Sees rest ∧
      value.withoutSpans = tree := by
  obtain ⟨value, spelled, same⟩ := spelled (cursor.advance.spanFrom cursor.current)
  exact ⟨value, _, (constant_leaf sees noList noObject).mpr ⟨spelled, rfl⟩, sees.advance, same⟩

/-- A constant is accepted whatever comes behind it, if the constants inside it are. -/
theorem constant_complete {cursor : Cursor} {words rest : List Reading} {tree : Value}
    (inside : ConstantsWithin cursor.rest.length) (sees : cursor.Sees (words ++ rest))
    (derived : ConstantPhrase words tree) :
    ∃ value last, constant cursor = .accepted value last ∧ last.Sees rest ∧
      value.withoutSpans = tree := by
  cases derived with
  | list opened given =>
    obtain ⟨spelling⟩ := opened
    obtain ⟨values, before, looped, seen, rfl⟩ := collectUntil_complete inside constant_begins
      (by decide) (by decide) given sees.fewer sees.advance
    refine ⟨_, _, (constant_list sees sees.fewer).mpr ⟨values, before, looped, rfl, rfl⟩,
      seen, ?_⟩
    rw [Value.withoutSpans, Value.eraseAll_eq_map]
  | object opened given =>
    obtain ⟨spelling⟩ := opened
    obtain ⟨fields, before, looped, seen, rfl⟩ := collectUntil_complete
      (objectField_within inside) objectField_begins (by decide) (by decide) given
      sees.fewer sees.advance
    refine ⟨_, _, (constant_object sees sees.fewer).mpr ⟨fields, before, looped, rfl, rfl⟩,
      seen, ?_⟩
    rw [Value.withoutSpans, ObjectField.eraseAll_eq_map]
  | enum symbol free =>
    refine constant_spelled sees (by simp) (by simp) (fun span => ⟨.enum symbol span, ?_, rfl⟩)
    simp_all [literalNames, leafValue]
  | _ => exact constant_spelled sees (by simp) (by simp) (fun span => ⟨_, rfl, rfl⟩)

/-- Constants are read below every limit, by induction on it: those inside a constant
have fewer tokens ahead than the constant. -/
theorem constant_within (limit : Nat) : ConstantsWithin limit := by
  induction limit using Nat.strongRecOn with
  | ind limit inductionHypothesis =>
    exact ⟨fun within sees _ accepted =>
        constant_sound (inductionHypothesis _ within) sees accepted,
      fun within sees derived _ =>
        constant_complete (inductionHypothesis _ within) sees derived⟩

/-- A constant is accepted exactly if it is one. -/
theorem constant_reads :
    Reads constant Value.withoutSpans ConstantPhrase Anywhere (NextNot []) :=
  ⟨fun sees _ accepted => constant_sound (constant_within _) sees accepted,
    fun sees derived _ => constant_complete (constant_within _) sees derived⟩

end SchemaForge

import SchemaForge.Proofs.ErrorOrder
import SchemaForge.Proofs.NestedBrackets

/-!
# The depth at every moment

The depth that a cursor carries is counted where a token is passed and nowhere else. So at every
moment of a reading it is the count over the tokens that were passed, wherever an error may have
left a production, and however many closing brackets stand alone.

A moment is what the parts of the grammar make of a cursor, one after another. The parts are
those that pass single tokens, the ways to combine productions in loops, and every production;
so whatever a production goes through is made of moments, and recovery is too.

Between two definitions no bracket is open. A definition that is accepted closes the brackets
that it opens, and recovery goes on until none is open or no token is left.
-/

namespace SchemaForge

open Production Grammar

/-! ## Moments of a reading -/

/-- The cursor that a production leaves behind, whether it applies or not. -/
def Outcome.cursor {α : Type} : Outcome α → Cursor
  | .accepted _ moved => moved
  | .rejected _ stopped => stopped

/-- The parts that a reading of definitions is made of. -/
inductive GrammarPart : {α : Type} → Production α → Prop where
  | advance : GrammarPart Production.advance
  | accept (kind : TokenKind) : GrammarPart (accept kind)
  | expect (kind : TokenKind) (fault : GrammarFault) : GrammarPart (expect kind fault)
  | many {α : Type} {item : Production α} (continues : Token → Bool) (part : GrammarPart item) :
      GrammarPart (many continues item)
  | manyUntil {α : Type} {item : Production α} (closer : TokenKind) (part : GrammarPart item) :
      GrammarPart (manyUntil closer item)
  | separated {α : Type} {item : Production α} (separator : TokenKind)
      (part : GrammarPart item) : GrammarPart (separated separator item)
  | braced {α : Type} {item : Production α} (part : GrammarPart item) :
      GrammarPart (braced item)
  | description : GrammarPart description
  | namedType : GrammarPart namedType
  | nullability (first : Token) (type : TypeReference) : GrammarPart (nullability first type)
  | typeReference : GrammarPart typeReference
  | objectField : GrammarPart (fun cursor => objectField cursor (fun inner _ => constant inner))
  | constant : GrammarPart constant
  | argument : GrammarPart argument
  | arguments : GrammarPart arguments
  | directive : GrammarPart directive
  | directives : GrammarPart directives
  | defaultValue : GrammarPart defaultValue
  | inputValue : GrammarPart inputValue
  | argumentDeclarations : GrammarPart argumentDeclarations
  | field : GrammarPart field
  | interfaces : GrammarPart interfaces
  | fieldedType (role : NameRole) (first : Token) (described : Option Text) :
      GrammarPart (fieldedType role first described)
  | operationType : GrammarPart operationType
  | schemaBlock (first : Token) (described : Option Text) :
      GrammarPart (schemaBlock first described)
  | scalarType (first : Token) (described : Option Text) :
      GrammarPart (scalarType first described)
  | unionMembers : GrammarPart unionMembers
  | unionType (first : Token) (described : Option Text) : GrammarPart (unionType first described)
  | enumMember : GrammarPart enumMember
  | enumType (first : Token) (described : Option Text) : GrammarPart (enumType first described)
  | inputType (first : Token) (described : Option Text) : GrammarPart (inputType first described)
  | repeatability : GrammarPart repeatability
  | onKeyword : GrammarPart onKeyword
  | directiveDeclaration (first : Token) (described : Option Text) :
      GrammarPart (directiveDeclaration first described)
  | extension : GrammarPart (extension : Production Definition)
  | definitionOf (first : Token) (described : Option Text) :
      GrammarPart (definitionOf first described)
  | definition : GrammarPart definition

/-- The cursors that a reading comes to from where it begins. -/
inductive Moment (start : Cursor) : Cursor → Prop where
  | begins : Moment start start
  | after {α : Type} {production : Production α} {cursor : Cursor}
      (part : GrammarPart production) (moment : Moment start cursor) :
      Moment start (production cursor).cursor

/-! ## Parts of the grammar stay in the input -/

/-- A production comes to a place of the input, whether it applies or not. -/
structure Settles {α : Type} (input : Input) (production : Production α) : Prop where
  /-- From every place, it comes to one that is not in front of it. -/
  place : ∀ {cursor place}, cursor.At input place →
    ∃ later, place ≤ later ∧ (production cursor).cursor.At input later

section Settled

variable {α β : Type} {input : Input}

/-- Where an error is noticed the cursor has come to a place. -/
theorem Noticed.settled {start : Nat} {error : GrammarError} {stopped : Cursor}
    (noticed : Noticed input start error stopped) :
    ∃ later, start ≤ later ∧ stopped.At input later := by
  cases noticed with
  | here later _ stands => exact ⟨_, later, stands⟩
  | enclosed later _ stands _ => exact ⟨_, Nat.le_succ_of_le later, stands⟩
  | extension later stands _ => exact ⟨_, Nat.le_succ_of_le later, stands⟩
  | extendedKind later stands _ => exact ⟨_, Nat.le_succ_of_le (Nat.le_succ_of_le later), stands⟩

/-- A production that keeps to the input comes to a place of it. -/
theorem Tracks.settles {production : Production α} (tracks : Tracks input production) :
    Settles input production := by
  refine ⟨fun {cursor place} stands => ?_⟩
  have tracked := tracks.tracked stands
  generalize production cursor = outcome at tracked
  cases tracked with
  | accepted later stands => exact ⟨_, later, stands⟩
  | rejected noticed => exact noticed.settled

/-- One production behind another. -/
theorem Settles.bind {first : Production α} {next : α → Production β}
    (front : Settles input first) (behind : ∀ value, Settles input (next value)) :
    Settles input (first >>= next) := by
  refine ⟨fun {cursor place} stands => ?_⟩
  obtain ⟨middle, order, moved⟩ := front.place stands
  simp only [Bind.bind]
  generalize first cursor = outcome at moved
  cases outcome with
  | rejected error stopped => exact ⟨middle, order, moved⟩
  | accepted value cursor =>
    obtain ⟨later, further, stands⟩ := (behind value).place moved
    exact ⟨later, Nat.le_trans order further, stands⟩

/-- One of two productions. -/
theorem Settles.ite {condition : Prop} [Decidable condition] {yes no : Production α}
    (positive : Settles input yes) (negative : Settles input no) :
    Settles input (if condition then yes else no) := by
  split
  · exact positive
  · exact negative

/-- A loop comes to a place if its items do. By induction on the tokens ahead. -/
theorem collect_settled {item : Production α} (items : Settles input item)
    {continues : Token → Bool} {limit place : Nat} {cursor : Cursor}
    (within : cursor.rest.length < limit) (stands : cursor.At input place) :
    ∃ later, place ≤ later ∧
      (collect continues limit (fun inner _ => item inner) cursor within).cursor.At input
        later := by
  induction size : cursor.rest.length using Nat.strongRecOn generalizing cursor place with
  | ind size inductionHypothesis =>
    unfold collect
    split
    · obtain ⟨middle, order, moved⟩ := items.place stands
      generalize item cursor = outcome at moved
      cases outcome with
      | rejected error stopped => exact ⟨middle, order, moved⟩
      | accepted value behind =>
        simp only
        split
        · next fewer =>
          obtain ⟨later, further, stands⟩ :=
            inductionHypothesis _ (size ▸ fewer) (Nat.lt_trans fewer within) moved rfl
          generalize collect continues limit _ behind _ = outcome at stands
          cases outcome with
          | accepted values last => exact ⟨later, Nat.le_trans order further, stands⟩
          | rejected error stopped => exact ⟨later, Nat.le_trans order further, stands⟩
        · exact ⟨middle, order, moved⟩
    · exact ⟨place, Nat.le_refl _, stands⟩

/-- Items one after another. -/
theorem many_settles (continues : Token → Bool) {item : Production α}
    (items : Settles input item) : Settles input (many continues item) :=
  ⟨collect_settled items _⟩

/-- Items up to a closing token. -/
theorem manyUntil_settles (closer : TokenKind) {item : Production α}
    (items : Settles input item) : Settles input (manyUntil closer item) :=
  (many_settles _ items).bind fun _ => advance_tracks.settles.bind fun _ =>
    (pure_tracks _).settles

/-- Items with a separator between them. -/
theorem separated_settles (separator : TokenKind) {item : Production α}
    (items : Settles input item) : Settles input (separated separator item) :=
  (accept_tracks _).settles.bind fun _ => items.bind fun _ =>
    (many_settles _ (advance_tracks.settles.bind fun _ => items)).bind fun _ =>
      (pure_tracks _).settles

/-- Members in braces. -/
theorem braced_settles {item : Production α} (items : Settles input item) :
    Settles input (braced item) :=
  (accept_tracks _).settles.bind fun _ =>
    .ite (manyUntil_settles _ items) (pure_tracks _).settles

/-- A wanted token, whatever it is missed as. -/
theorem expect_settles (kind : TokenKind) (fault : GrammarFault) :
    Settles input (expect kind fault) := by
  refine ⟨fun {cursor place} stands => ?_⟩
  unfold expect
  split
  · exact stands.advance
  · exact ⟨place, Nat.le_refl _, stands⟩

/-- A field of an object. -/
theorem objectField_settles :
    Settles input (fun cursor => objectField cursor (fun inner _ => constant inner)) := by
  have tracks : Tracks input (fun cursor => objectField cursor (fun inner _ => constant inner)) :=
    ⟨objectField_tracked (fun _ => constant_tracks.tracked)⟩
  exact tracks.settles

/-- A value of an enumeration, wherever it stands. -/
theorem enumMember_settles : Settles input enumMember := by
  have refusal (name : Token) : Settles input (fun cursor =>
      .rejected ⟨.reservedEnumValue, name⟩ cursor : Production EnumMember) :=
    ⟨fun {cursor place} stands => ⟨place, Nat.le_refl _, stands⟩⟩
  exact peek_tracks.settles.bind fun _ => description_tracks.settles.bind fun _ =>
    (expect_settles _ _).bind fun _ => .ite (refusal _) <|
      directives_tracks.settles.bind fun _ => (spanFrom_tracks _).settles.bind fun _ =>
        (pure_tracks _).settles

/-- An extension, whatever it extends. -/
theorem extension_settles : Settles input (extension : Production α) := by
  refine ⟨fun {cursor place} stands => ?_⟩
  obtain ⟨behind, order, moved⟩ := stands.advance
  obtain ⟨last, further, passed⟩ := moved.advance
  unfold extension
  by_cases named : cursor.advance.current.kind = .name
  · refine ⟨last, Nat.le_trans order further, ?_⟩
    simpa only [named, ↓reduceIte, Outcome.cursor] using passed
  · refine ⟨behind, order, ?_⟩
    simpa only [named, ↓reduceIte, Outcome.cursor] using moved

/-- Every part of the grammar comes to a place of the input. -/
theorem GrammarPart.settles {production : Production α} (part : GrammarPart production) :
    Settles input production := by
  induction part with
  | advance => exact advance_tracks.settles
  | accept kind => exact (accept_tracks kind).settles
  | expect kind fault => exact expect_settles kind fault
  | many continues _ inductionHypothesis => exact many_settles continues inductionHypothesis
  | manyUntil closer _ inductionHypothesis => exact manyUntil_settles closer inductionHypothesis
  | separated separator _ inductionHypothesis =>
    exact separated_settles separator inductionHypothesis
  | braced _ inductionHypothesis => exact braced_settles inductionHypothesis
  | description => exact description_tracks.settles
  | namedType => exact namedType_tracks.settles
  | nullability first type => exact (nullability_tracks first type).settles
  | typeReference => exact typeReference_tracks.settles
  | objectField => exact objectField_settles
  | constant => exact constant_tracks.settles
  | argument => exact argument_tracks.settles
  | arguments => exact arguments_tracks.settles
  | directive => exact directive_tracks.settles
  | directives => exact directives_tracks.settles
  | defaultValue => exact defaultValue_tracks.settles
  | inputValue => exact inputValue_tracks.settles
  | argumentDeclarations => exact argumentDeclarations_tracks.settles
  | field => exact field_tracks.settles
  | interfaces => exact interfaces_tracks.settles
  | fieldedType role first described => exact (fieldedType_tracks role first described).settles
  | operationType => exact operationType_tracks.settles
  | schemaBlock first described => exact (schemaBlock_tracks first described).settles
  | scalarType first described => exact (scalarType_tracks first described).settles
  | unionMembers => exact unionMembers_tracks.settles
  | unionType first described => exact (unionType_tracks first described).settles
  | enumMember => exact enumMember_settles
  | enumType first described => exact (enumType_tracks first described).settles
  | inputType first described => exact (inputType_tracks first described).settles
  | repeatability => exact repeatability_tracks.settles
  | onKeyword => exact onKeyword_tracks.settles
  | directiveDeclaration first described =>
    exact (directiveDeclaration_tracks first described).settles
  | extension => exact extension_settles
  | definitionOf first described => exact (definitionOf_tracks first described).settles
  | definition => exact definition_tracks.settles

end Settled

/-! ## Moments and places -/

/-- The search for a definition keeps what passing a token keeps, and it ends where no bracket is
open, or at the end of input. By induction on the tokens ahead. -/
theorem Cursor.seekDefinition_stops (holds : Cursor → Prop)
    (keeps : ∀ cursor, holds cursor → holds cursor.advance) {cursor : Cursor}
    (held : holds cursor) :
    holds cursor.seekDefinition ∧
      (cursor.seekDefinition.rest = [] ∨ cursor.seekDefinition.depth = 0) := by
  induction size : cursor.rest.length using Nat.strongRecOn generalizing cursor with
  | ind size inductionHypothesis =>
    by_cases none : cursor.rest = []
    · rw [Cursor.seekDefinition_here (.inl none)]
      exact ⟨held, .inl none⟩
    by_cases here : cursor.depth = 0 ∧ cursor.current.beginsDefinition = true
    · rw [Cursor.seekDefinition_here (.inr here)]
      exact ⟨held, .inr here.1⟩
    have fewer : cursor.advance.rest.length < cursor.rest.length := by
      have positive := List.length_pos_iff.mpr none
      rw [Cursor.advance_rest, List.length_tail]
      omega
    rw [Cursor.seekDefinition_further none here]
    exact inductionHypothesis _ (size ▸ fewer) (keeps _ held) rfl

namespace Moment

variable {input : Input} {start cursor : Cursor} {place : Nat}

/-- At every moment the cursor stands before a place of the input. By induction on the parts
that led there. -/
theorem placed (begins : start.At input place) (moment : Moment start cursor) :
    ∃ later, cursor.At input later := by
  induction moment with
  | begins => exact ⟨place, begins⟩
  | after part _ inductionHypothesis =>
    obtain ⟨middle, stands⟩ := inductionHypothesis
    obtain ⟨later, -, moved⟩ := part.settles.place stands
    exact ⟨later, moved⟩

/-- Behind a token that is passed there is a moment. -/
theorem advance (moment : Moment start cursor) : Moment start cursor.advance :=
  .after .advance moment

/-- Recovery comes to a moment at which no bracket is open, or to the end of input. -/
theorem recover (moment : Moment start cursor) :
    Moment start cursor.recover ∧ (cursor.recover.rest = [] ∨ cursor.recover.depth = 0) :=
  Cursor.seekDefinition_stops (Moment start) (fun _ => advance) moment.advance

/-- Behind a definition that is accepted there is a moment. -/
theorem accepted {value : Definition} {moved : Cursor} (moment : Moment start cursor)
    (read : definition cursor = .accepted value moved) : Moment start moved := by
  have behind := Moment.after .definition moment
  rwa [read] at behind

/-- Where a definition is refused there is a moment. -/
theorem rejected {error : GrammarError} {stopped : Cursor} (moment : Moment start cursor)
    (read : definition cursor = .rejected error stopped) : Moment start stopped := by
  have behind := Moment.after .definition moment
  rwa [read] at behind

end Moment

/-- The depth of a cursor is that of the tokens in front of it. -/
theorem Cursor.At.counted {input : Input} {cursor : Cursor} {place : Nat}
    (stands : cursor.At input place) :
    ∃ passed, input.words = passed ++ cursor.rest ∧ cursor.depth = depthOver 0 passed :=
  ⟨input.words.take place, by rw [stands.rest, List.take_append_drop], stands.depth⟩

/-! ## Definitions and the depth between them -/

section Definitions

variable {input : Input} {cursor moved : Cursor} {place : Nat} {value : Definition}

/-- A definition that is accepted is made of nested tokens. -/
theorem definition_passesNested (stands : cursor.At input place)
    (read : definition cursor = .accepted value moved) :
    ∃ tokens, cursor.rest = tokens ++ moved.rest ∧ Nested (tokens.map Token.kind) := by
  obtain ⟨later, order, behind⟩ := definition_tracks.keeps.place stands read
  obtain ⟨words, rest, same, seen, derived⟩ :=
    definition_reads.sound (⟨rfl, stands.ended⟩ : cursor.Sees _) trivial read
  have ahead : cursor.rest = cursor.rest.take (later - place) ++ moved.rest := by
    have dropped : moved.rest = cursor.rest.drop (later - place) := by
      rw [behind.rest, stands.rest, List.drop_drop, Nat.add_sub_cancel' order]
    rw [dropped, List.take_append_drop]
  have spelled : (cursor.rest.take (later - place)).map Token.reading = words := by
    rw [ahead, List.map_append, seen.words] at same
    exact List.append_cancel_right same
  refine ⟨_, ahead, ?_⟩
  have nested : NestedWords words := definition_nested derived
  rw [← spelled, NestedWords, List.map_map] at nested
  exact nested

/-- A definition that is accepted leaves the depth as it is. -/
theorem definition_level (stands : cursor.At input place)
    (read : definition cursor = .accepted value moved) : moved.depth = cursor.depth := by
  obtain ⟨later, order, behind⟩ := definition_tracks.keeps.place stands read
  obtain ⟨tokens, ahead, nested⟩ := definition_passesNested stands read
  obtain ⟨passed, front, counted⟩ := stands.counted
  obtain ⟨all, whole, countedAll⟩ := behind.counted
  have together : all = passed ++ tokens := by
    rw [front, ahead, ← List.append_assoc] at whole
    exact (List.append_cancel_right whole).symm
  rw [countedAll, together, depthOver, List.foldl_append, counted]
  exact depthOver_of_nested nested _

/-- Every attempt begins at a moment at which no bracket is open, if the first one does. By
induction on the attempts. -/
theorem Attempts.flat {start : Cursor} {attempts : List Attempt}
    (run : Attempts input cursor place attempts) (moment : Moment start cursor)
    (flat : cursor.rest = [] ∨ cursor.depth = 0) {done others : List Attempt}
    {attempt : Attempt} (split : attempts = done ++ attempt :: others) :
    ∃ there, Moment start there ∧ there.depth = 0 ∧
      Attempts input there attempt.start (attempt :: others) := by
  induction run generalizing done with
  | finished => simp at split
  | @accepted cursor moved place later value rest stands within read further
      inductionHypothesis =>
    have ahead : cursor.rest ≠ [] :=
      List.ne_nil_of_length_pos (by rw [stands.length]; omega)
    have zero : cursor.depth = 0 := flat.resolve_left ahead
    cases done with
    | nil =>
      obtain ⟨rfl, rfl⟩ := List.cons.inj split
      exact ⟨cursor, moment, zero, .accepted stands within read further⟩
    | cons first done =>
      have level : moved.depth = 0 := (definition_level stands read).trans zero
      exact inductionHypothesis (moment.accepted read) (.inr level) (List.cons.inj split).2
  | @rejected cursor stopped place later error rest stands within read further
      inductionHypothesis =>
    have ahead : cursor.rest ≠ [] :=
      List.ne_nil_of_length_pos (by rw [stands.length]; omega)
    cases done with
    | nil =>
      obtain ⟨rfl, rfl⟩ := List.cons.inj split
      exact ⟨cursor, moment, flat.resolve_left ahead, .rejected stands within read further⟩
    | cons first done =>
      obtain ⟨behind, flat⟩ := (moment.rejected read).recover
      exact inductionHypothesis behind flat (List.cons.inj split).2

end Definitions

/-- The depth of a reading. At every moment it is the count over the tokens that were passed,
comments left out: one more at each bracket that opens, one less, but not below zero, at each
bracket that closes. What a definition that is accepted consumes is nested, with brackets that
match. The document is read in attempts, and each of them begins at a moment at which the depth
is zero. -/
theorem reading_countsBrackets (input : Input) (body : List Token)
    (given : meaningful body = input.words) :
    (∀ cursor, Moment (.ofTokens body input.finish) cursor →
      ∃ passed, input.words = passed ++ cursor.rest ∧ cursor.depth = depthOver 0 passed) ∧
    (∀ cursor value moved, Moment (.ofTokens body input.finish) cursor →
      definition cursor = .accepted value moved →
      ∃ tokens, cursor.rest = tokens ++ moved.rest ∧ Nested (tokens.map Token.kind)) ∧
    ∃ attempts, Attempts input (.ofTokens body input.finish) 0 attempts ∧
      DocumentReading.ofCursor (.ofTokens body input.finish) =
        ⟨attempts.filterMap Attempt.definition?, attempts.filterMap Attempt.error?⟩ ∧
      ∀ (done others : List Attempt) (attempt : Attempt), attempts = done ++ attempt :: others →
        ∃ cursor, Moment (.ofTokens body input.finish) cursor ∧ cursor.depth = 0 ∧
          Attempts input cursor attempt.start (attempt :: others) := by
  have begins := Cursor.ofTokens_at given
  refine ⟨?_, ?_, ?_⟩
  · intro cursor moment
    obtain ⟨place, stands⟩ := moment.placed begins
    exact stands.counted
  · intro cursor value moved moment read
    obtain ⟨place, stands⟩ := moment.placed begins
    exact definition_passesNested stands read
  · obtain ⟨attempts, run, same⟩ := exists_attempts begins
    exact ⟨attempts, run, same, fun done others attempt => run.flat .begins (.inr rfl)⟩

/-- A bracket that closes nothing, a field whose type is not closed, and an enumeration. -/
def strayClosers : Input where
  words := [⟨.rightParen, ")", 1, 1, 0, 1⟩, ⟨.name, "type", 1, 3, 2, 6⟩, ⟨.name, "A", 1, 8, 7, 8⟩,
    ⟨.leftBrace, "\x7b", 1, 10, 9, 10⟩, ⟨.name, "a", 1, 12, 11, 12⟩, ⟨.colon, ":", 1, 13, 12, 13⟩,
    ⟨.leftBracket, "[", 1, 15, 14, 15⟩, ⟨.name, "B", 1, 16, 15, 16⟩,
    ⟨.rightBrace, "\x7d", 1, 18, 17, 18⟩, ⟨.rightParen, ")", 1, 20, 19, 20⟩,
    ⟨.name, "enum", 2, 1, 21, 25⟩, ⟨.name, "C", 2, 6, 26, 27⟩, ⟨.leftBrace, "\x7b", 2, 8, 28, 29⟩,
    ⟨.name, "D", 2, 10, 30, 31⟩, ⟨.rightBrace, "\x7d", 2, 12, 32, 33⟩]
  finish := ⟨.endOfInput, "", 2, 13, 33, 33⟩
  ended := rfl

/-- Both errors are found, and no bracket is open where the attempts begin. -/
theorem reading_countsBrackets_stray :
    ∃ attempts,
      attempts.filterMap Attempt.error? =
        [⟨.expectedDefinition, strayClosers.token 0⟩, ⟨.unclosedListType, strayClosers.token 8⟩] ∧
      ∀ (done others : List Attempt) (attempt : Attempt), attempts = done ++ attempt :: others →
        ∃ cursor, Moment (.ofTokens strayClosers.words strayClosers.finish) cursor ∧
          cursor.depth = 0 ∧ Attempts strayClosers cursor attempt.start (attempt :: others) := by
  obtain ⟨-, -, attempts, -, same, flat⟩ :=
    reading_countsBrackets strayClosers strayClosers.words rfl
  refine ⟨attempts, (congrArg DocumentReading.errors same).symm.trans ?_, flat⟩
  decide +kernel

end SchemaForge

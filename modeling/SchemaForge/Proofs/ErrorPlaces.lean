import SchemaForge.Proofs.ErrorLocality

/-!
# The places of errors

A reading moves through a list of tokens and never leaves it. Every production either comes to
a place that is not in front of where it began, or it is refused. A refusal is noticed at a token
of the list, and the reading stops before that token, with three exceptions. A reserved value of
an enumeration is refused at its name but stops behind it; there a brace is still open. An
extension is refused at its keyword but stops behind it, or behind the name that comes next.

The productions are gone through from front to back. What is said about sequences, choices and
loops is said once, before the productions of the grammar.
-/

namespace SchemaForge

/-! ## Places -/

/-- The tokens of a document: those that are no comments, and the end of input. -/
structure Input where
  /-- The tokens in front of the end of input. -/
  words : List Token
  /-- The token for the end of input. -/
  finish : Token
  /-- The last token is that for the end of input. -/
  ended : finish.kind = .endOfInput

namespace Input

/-- The token at a place. Behind the last word there is the end of input only. -/
def token (input : Input) (place : Nat) : Token := input.words.getD place input.finish

/-- How many brackets are open in front of a place. -/
def depth (input : Input) (place : Nat) : Nat := depthOver 0 (input.words.take place)

variable {input : Input} {place : Nat}

/-- A token other than the end of input is one of the words. -/
theorem place_lt {kind : TokenKind} (found : (input.token place).kind = kind)
    (proper : kind ≠ .endOfInput) : place < input.words.length := by
  refine Nat.lt_of_not_le (fun behind => proper ?_)
  rw [← found, token, List.getD_eq_getElem?_getD, List.getElem?_eq_none behind]
  exact input.ended

/-- A word changes the depth by its bracket. -/
theorem depth_succ (input : Input) (within : place < input.words.length) :
    input.depth (place + 1) = depthAfter (input.depth place) (input.token place).kind := by
  rw [depth, depth, depthOver, List.take_add_one, List.foldl_append, token,
    List.getD_eq_getElem?_getD, List.getElem?_eq_getElem within]
  rfl

end Input

/-- A cursor stands before a place of the input. -/
structure Cursor.At (input : Input) (cursor : Cursor) (place : Nat) : Prop where
  /-- The tokens ahead are those from the place on. -/
  rest : cursor.rest = input.words.drop place
  /-- The place is not behind the last word. -/
  within : place ≤ input.words.length
  /-- The brackets that were passed are counted. -/
  depth : cursor.depth = input.depth place
  /-- The input ends where it ends. -/
  finish : cursor.finish = input.finish

namespace Cursor.At

variable {input : Input} {cursor : Cursor} {place : Nat}

/-- The next token is the one at the place. -/
theorem current (stands : cursor.At input place) : cursor.current = input.token place := by
  rw [Cursor.current, stands.rest, stands.finish, Input.token, List.getD_eq_getElem?_getD,
    List.headD_eq_head?_getD, List.head?_drop]

/-- The input ends with the token for it. -/
theorem ended (stands : cursor.At input place) : cursor.finish.kind = .endOfInput :=
  stands.finish ▸ input.ended

/-- As many tokens are ahead as have not been passed. -/
theorem length (stands : cursor.At input place) :
    cursor.rest.length = input.words.length - place := by
  rw [stands.rest, List.length_drop]

/-- A cursor stands before one place only. -/
theorem unique {other : Nat} (stands : cursor.At input place) (also : cursor.At input other) :
    place = other := by
  have length := stands.length.symm.trans also.length
  have within := stands.within
  have inside := also.within
  omega

/-- Passing a word leads to the next place. -/
theorem pass (stands : cursor.At input place) (within : place < input.words.length) :
    cursor.advance.At input (place + 1) where
  rest := by rw [Cursor.advance_rest, stands.rest, List.tail_drop]
  within := within
  depth := by
    rw [Cursor.advance_depth stands.ended, stands.depth, stands.current, input.depth_succ within]
  finish := Cursor.advance_finish.trans stands.finish

/-- The end of input is not passed. -/
theorem stay (stands : cursor.At input place) (finished : place = input.words.length) :
    cursor.advance.At input place := by
  subst finished
  have none : cursor.rest = [] := by rw [stands.rest, List.drop_length]
  have depth : cursor.advance.depth = cursor.depth := by rw [Cursor.advance, none]
  exact ⟨by rw [Cursor.advance_rest, none, List.drop_length]; rfl, Nat.le_refl _,
    depth.trans stands.depth, Cursor.advance_finish.trans stands.finish⟩

/-- Passing a token does not lead back. -/
theorem advance (stands : cursor.At input place) :
    ∃ later, place ≤ later ∧ cursor.advance.At input later := by
  obtain finished | within := Nat.eq_or_lt_of_le stands.within
  · exact ⟨place, Nat.le_refl _, stands.stay finished⟩
  · exact ⟨place + 1, Nat.le_succ _, stands.pass within⟩

end Cursor.At

/-! ## Outcomes -/

/-- Where an error is noticed, and where the reading stops. -/
inductive Noticed (input : Input) (start : Nat) : GrammarError → Cursor → Prop where
  | here {fault : GrammarFault} {stopped : Cursor} {place : Nat} (later : start ≤ place)
      (proper : fault ≠ .extensionUnsupported) (stands : stopped.At input place) :
      Noticed input start ⟨fault, input.token place⟩ stopped
  | enclosed {fault : GrammarFault} {stopped : Cursor} {place : Nat} (later : start ≤ place)
      (proper : fault ≠ .extensionUnsupported) (stands : stopped.At input (place + 1))
      (inside : 0 < stopped.depth) :
      Noticed input start ⟨fault, input.token place⟩ stopped
  | extension {stopped : Cursor} {place : Nat} (later : start ≤ place)
      (stands : stopped.At input (place + 1))
      (bare : (input.token (place + 1)).kind ≠ .name) :
      Noticed input start ⟨.extensionUnsupported, input.token place⟩ stopped
  | extendedKind {stopped : Cursor} {place : Nat} (later : start ≤ place)
      (stands : stopped.At input (place + 2))
      (named : (input.token (place + 1)).kind = .name) :
      Noticed input start ⟨.extensionUnsupported, input.token place⟩ stopped

/-- An outcome of a production that began at a place: another place that is not in front of it,
or an error that is not noticed in front of it. -/
inductive Tracked {α : Type} (input : Input) (start : Nat) : Outcome α → Prop where
  | accepted {value : α} {moved : Cursor} {place : Nat} (later : start ≤ place)
      (stands : moved.At input place) : Tracked input start (.accepted value moved)
  | rejected {error : GrammarError} {stopped : Cursor}
      (noticed : Noticed input start error stopped) :
      Tracked input start (.rejected error stopped)

/-- A production keeps to the input. -/
structure Tracks {α : Type} (input : Input) (production : Production α) : Prop where
  /-- From every place, its outcome is tracked. -/
  tracked : ∀ {cursor place}, cursor.At input place → Tracked input place (production cursor)

section Combined

open Production

variable {α β : Type} {input : Input} {cursor : Cursor} {place start : Nat}

/-- What is not in front of a place is not in front of an earlier one. -/
theorem Noticed.mono {error : GrammarError} (noticed : Noticed input place error cursor)
    (earlier : start ≤ place) : Noticed input start error cursor := by
  cases noticed with
  | here later proper stands => exact .here (Nat.le_trans earlier later) proper stands
  | enclosed later proper stands inside =>
    exact .enclosed (Nat.le_trans earlier later) proper stands inside
  | extension later stands bare => exact .extension (Nat.le_trans earlier later) stands bare
  | extendedKind later stands named =>
    exact .extendedKind (Nat.le_trans earlier later) stands named

/-- An outcome is tracked from an earlier place too. -/
theorem Tracked.mono {outcome : Outcome α} (tracked : Tracked input place outcome)
    (earlier : start ≤ place) : Tracked input start outcome := by
  cases tracked with
  | accepted later stands => exact .accepted (Nat.le_trans earlier later) stands
  | rejected noticed => exact .rejected (noticed.mono earlier)

/-- One production behind another, with what the first one accepted. -/
theorem Tracked.bindWith {first : Production α} {next : α → Production β}
    (tracked : Tracked input place (first cursor))
    (rest : ∀ {value moved later}, first cursor = .accepted value moved → place ≤ later →
      moved.At input later → Tracked input place (next value moved)) :
    Tracked input place ((first >>= next) cursor) := by
  simp only [bind]
  generalize read : first cursor = outcome at tracked
  cases tracked with
  | accepted later stands => exact rest read later stands
  | rejected noticed => exact .rejected noticed

/-- One production behind another. -/
theorem Tracks.bind {first : Production α} {next : α → Production β}
    (front : Tracks input first) (behind : ∀ value, Tracks input (next value)) :
    Tracks input (first >>= next) :=
  ⟨fun stands => (front.tracked stands).bindWith
    (fun _ order moved => ((behind _).tracked moved).mono order)⟩

/-- One of two productions, with what decides between them. -/
theorem Tracked.ite {condition : Prop} [Decidable condition] {yes no : Production α}
    (positive : condition → Tracked input place (yes cursor))
    (negative : ¬ condition → Tracked input place (no cursor)) :
    Tracked input place ((if condition then yes else no) cursor) := by
  split
  · next holds => exact positive holds
  · next fails => exact negative fails

/-- One of two productions. -/
theorem Tracks.ite {condition : Prop} [Decidable condition] {yes no : Production α}
    (positive : Tracks input yes) (negative : Tracks input no) :
    Tracks input (if condition then yes else no) :=
  ⟨fun stands => .ite (fun _ => positive.tracked stands) (fun _ => negative.tracked stands)⟩

/-- A value stays where it is. -/
theorem pure_tracks (value : α) : Tracks input (pure value) :=
  ⟨fun stands => .accepted (Nat.le_refl _) stands⟩

/-- Looking at the next token stays where it is. -/
theorem peek_tracks : Tracks input peek :=
  ⟨fun stands => .accepted (Nat.le_refl _) stands⟩

/-- A span is taken where the cursor is. -/
theorem spanFrom_tracks (first : Token) : Tracks input (spanFrom first) :=
  ⟨fun stands => .accepted (Nat.le_refl _) stands⟩

/-- The next token is passed. -/
theorem advance_tracks : Tracks input Production.advance := by
  refine ⟨fun {cursor place} stands => ?_⟩
  obtain ⟨later, order, moved⟩ := stands.advance
  exact .accepted order moved

/-- A refusal is noticed where the cursor is. -/
theorem reject_tracks {fault : GrammarFault} (proper : fault ≠ .extensionUnsupported) :
    Tracks input (reject fault : Production α) := by
  refine ⟨fun {cursor place} stands => ?_⟩
  rw [reject, stands.current]
  exact .rejected (.here (Nat.le_refl _) proper stands)

/-- A mark is passed or left. -/
theorem accept_tracks (kind : TokenKind) : Tracks input (accept kind) := by
  refine ⟨fun {cursor place} stands => ?_⟩
  unfold accept
  split
  · obtain ⟨later, order, moved⟩ := stands.advance
    exact .accepted order moved
  · exact .accepted (Nat.le_refl _) stands

/-- A wanted token is passed or refused. -/
theorem expect_tracks (kind : TokenKind) {fault : GrammarFault}
    (proper : fault ≠ .extensionUnsupported) : Tracks input (expect kind fault) := by
  refine ⟨fun {cursor place} stands => ?_⟩
  unfold expect
  split
  · obtain ⟨later, order, moved⟩ := stands.advance
    exact .accepted order moved
  · exact (reject_tracks proper).tracked stands

/-- A wanted name is passed or refused. -/
theorem expectName_tracks (role : NameRole) : Tracks input (expectName role) :=
  expect_tracks .name (by nofun)

/-- A loop keeps to the input if its items do. What holds in front of an item may be relied on.
By induction on the tokens ahead. -/
theorem collect_tracked (holds : Cursor → Prop) {continues : Token → Bool} {limit : Nat}
    {item : (cursor : Cursor) → cursor.rest.length < limit → Outcome α}
    (items : ∀ {cursor place} (within : cursor.rest.length < limit), cursor.At input place →
      holds cursor → Tracked input place (item cursor within))
    (keeps : ∀ {cursor place value moved} (within : cursor.rest.length < limit),
      cursor.At input place → holds cursor → item cursor within = .accepted value moved →
        holds moved)
    (within : cursor.rest.length < limit) (stands : cursor.At input place)
    (held : holds cursor) : Tracked input place (collect continues limit item cursor within) := by
  induction size : cursor.rest.length using Nat.strongRecOn generalizing cursor place with
  | ind size inductionHypothesis =>
    unfold collect
    split
    · have tracked := items within stands held
      generalize read : item cursor within = outcome at tracked
      cases tracked with
      | rejected noticed => exact .rejected noticed
      | @accepted value moved later order behind =>
        simp only
        split
        · next fewer =>
          have rest := (inductionHypothesis _ (size ▸ fewer) (Nat.lt_trans fewer within) behind
            (keeps within stands held read) rfl).mono order
          generalize collect continues limit item moved _ = outcome at rest
          cases rest with
          | accepted order stands => exact .accepted order stands
          | rejected noticed => exact .rejected noticed
        · exact .accepted order behind
    · exact .accepted (Nat.le_refl _) stands

/-- Items one after another. -/
theorem many_tracks {continues : Token → Bool} {item : Production α}
    (items : Tracks input item) : Tracks input (many continues item) :=
  ⟨fun stands => collect_tracked (fun _ => True) (fun _ stands _ => items.tracked stands)
    (fun _ _ _ _ => trivial) _ stands trivial⟩

/-- Items up to a closing token. -/
theorem manyUntil_tracks (closer : TokenKind) {item : Production α}
    (items : Tracks input item) : Tracks input (manyUntil closer item) :=
  (many_tracks items).bind fun _ => advance_tracks.bind fun _ => pure_tracks _

/-- Items with a separator between them. -/
theorem separated_tracks (separator : TokenKind) {item : Production α}
    (items : Tracks input item) : Tracks input (separated separator item) :=
  (accept_tracks separator).bind fun _ => items.bind fun _ =>
    (many_tracks (advance_tracks.bind fun _ => items)).bind fun _ => pure_tracks _

end Combined

/-! ## Types and constants -/

section Grammar

open Production Grammar

variable {input : Input}

/-- A description is passed or left. -/
theorem description_tracks : Tracks input description :=
  peek_tracks.bind fun _ => .ite (advance_tracks.bind fun _ => pure_tracks _) (pure_tracks _)

/-- A type by its name. -/
theorem namedType_tracks : Tracks input namedType :=
  (expectName_tracks _).bind fun _ => (spanFrom_tracks _).bind fun _ => pure_tracks _

/-- An exclamation mark is passed or left. -/
theorem nullability_tracks (first : Token) (type : TypeReference) :
    Tracks input (nullability first type) :=
  (accept_tracks _).bind fun _ =>
    .ite ((spanFrom_tracks _).bind fun _ => pure_tracks _) (pure_tracks _)

/-- A type. By induction on the tokens ahead. -/
theorem typeReference_tracks : Tracks input typeReference := by
  refine ⟨fun {cursor place} stands => ?_⟩
  induction size : cursor.rest.length using Nat.strongRecOn generalizing cursor place with
  | ind size inductionHypothesis =>
    by_cases bracket : cursor.current.kind = .leftBracket
    · obtain ⟨_, _, sees⟩ := Cursor.sees_of_kind stands.ended bracket (by decide)
      obtain ⟨later, order, moved⟩ := stands.advance
      rw [typeReference_bracketed sees]
      refine Tracked.mono ?_ order
      refine (inductionHypothesis _ (size ▸ sees.fewer) moved rfl).bindWith ?_
      intro element _ _ _ order behind
      exact (((expect_tracks _ (by nofun)).bind fun _ => (spanFrom_tracks _).bind fun _ =>
        nullability_tracks _ _).tracked behind).mono order
    · have sees : cursor.Sees (cursor.rest.map Token.reading) := ⟨rfl, stands.ended⟩
      rw [typeReference_bare sees (sees.kind ▸ bracket)]
      exact (namedType_tracks.bind fun _ => nullability_tracks _ _).tracked stands

/-- A field of an object, if its value keeps to the input. -/
theorem objectField_tracked {cursor : Cursor} {place : Nat}
    {value : (inner : Cursor) → inner.rest.length < cursor.rest.length → Outcome Value}
    (values : ∀ {inner place} (fewer : inner.rest.length < cursor.rest.length),
      inner.At input place → Tracked input place (value inner fewer))
    (stands : cursor.At input place) : Tracked input place (objectField cursor value) := by
  have valued : Tracks input (fun inner =>
      if fewer : inner.rest.length < cursor.rest.length then value inner fewer
      else reject .expectedValue inner) := by
    refine ⟨fun {inner place} stands => ?_⟩
    split
    · next fewer => exact values fewer stands
    · exact (reject_tracks (by nofun)).tracked stands
  exact ((expectName_tracks _).bind fun _ => (expect_tracks _ (by nofun)).bind fun _ =>
    valued.bind fun _ => (spanFrom_tracks _).bind fun _ => pure_tracks _).tracked stands

/-- A constant. By induction on the tokens ahead. -/
theorem constant_tracks : Tracks input constant := by
  refine ⟨fun {cursor place} stands => ?_⟩
  induction size : cursor.rest.length using Nat.strongRecOn generalizing cursor place with
  | ind size inductionHypothesis =>
    obtain ⟨later, order, moved⟩ := stands.advance
    -- Behind its items a bracket is closed, and the value is put together.
    have closed {γ : Type} {items : Outcome (List γ)} {made : List γ → Span → Value}
        (tracked : Tracked input later items) :
        Tracked input place ((do
          let values ← fun _ => items
          let _ ← Production.advance
          pure (made values (← spanFrom cursor.current)) : Production Value) cursor.advance) := by
      refine Tracked.mono (tracked.bindWith ?_) order
      intro _ _ _ _ order behind
      exact ((advance_tracks.bind fun _ => (spanFrom_tracks _).bind fun _ =>
        pure_tracks _).tracked behind).mono order
    by_cases list : cursor.current.kind = .leftBracket
    · obtain ⟨_, _, sees⟩ := Cursor.sees_of_kind stands.ended list (by decide)
      rw [Comparison.constant_bracketed sees sees.fewer]
      refine closed ?_
      exact collect_tracked (fun _ => True)
        (fun within stands _ => inductionHypothesis _ (size ▸ within) stands rfl)
        (fun _ _ _ _ => trivial) sees.fewer moved trivial
    by_cases object : cursor.current.kind = .leftBrace
    · obtain ⟨_, _, sees⟩ := Cursor.sees_of_kind stands.ended object (by decide)
      rw [Comparison.constant_braced sees sees.fewer]
      refine closed ?_
      exact collect_tracked (fun _ => True)
        (fun within stands _ => objectField_tracked (fun fewer stands =>
          inductionHypothesis _ (size ▸ Nat.lt_trans fewer within) stands rfl) stands)
        (fun _ _ _ _ => trivial) sees.fewer moved trivial
    rw [Comparison.constant_flat stands.ended list object]
    split
    · exact .accepted order moved
    · refine (reject_tracks ?_).tracked stands
      split <;> nofun

/-- An argument. -/
theorem argument_tracks : Tracks input argument :=
  (expectName_tracks _).bind fun _ => (expect_tracks _ (by nofun)).bind fun _ =>
    constant_tracks.bind fun _ => (spanFrom_tracks _).bind fun _ => pure_tracks _

/-- Arguments in parentheses. -/
theorem arguments_tracks : Tracks input arguments :=
  (accept_tracks _).bind fun _ =>
    .ite ((manyUntil_tracks _ argument_tracks).bind fun _ =>
      .ite (reject_tracks (by nofun)) (pure_tracks _)) (pure_tracks _)

/-- A directive. -/
theorem directive_tracks : Tracks input directive :=
  advance_tracks.bind fun _ => (expectName_tracks _).bind fun _ =>
    arguments_tracks.bind fun _ => (spanFrom_tracks _).bind fun _ => pure_tracks _

/-- Directives. -/
theorem directives_tracks : Tracks input directives := many_tracks directive_tracks

/-! ## Members -/

/-- A default value. -/
theorem defaultValue_tracks : Tracks input defaultValue :=
  (accept_tracks _).bind fun _ =>
    .ite (constant_tracks.bind fun _ => pure_tracks _) (pure_tracks _)

/-- An input value. -/
theorem inputValue_tracks : Tracks input inputValue :=
  peek_tracks.bind fun _ => description_tracks.bind fun _ => (expectName_tracks _).bind fun _ =>
    (expect_tracks _ (by nofun)).bind fun _ => typeReference_tracks.bind fun _ =>
      defaultValue_tracks.bind fun _ => directives_tracks.bind fun _ =>
        (spanFrom_tracks _).bind fun _ => pure_tracks _

/-- Declared arguments. -/
theorem argumentDeclarations_tracks : Tracks input argumentDeclarations :=
  (accept_tracks _).bind fun _ =>
    .ite ((manyUntil_tracks _ inputValue_tracks).bind fun _ =>
      .ite (reject_tracks (by nofun)) (pure_tracks _)) (pure_tracks _)

/-- A field. -/
theorem field_tracks : Tracks input field :=
  peek_tracks.bind fun _ => description_tracks.bind fun _ => (expectName_tracks _).bind fun _ =>
    argumentDeclarations_tracks.bind fun _ => (expect_tracks _ (by nofun)).bind fun _ =>
      typeReference_tracks.bind fun _ => directives_tracks.bind fun _ =>
        (spanFrom_tracks _).bind fun _ => pure_tracks _

/-- Members in braces. -/
theorem braced_tracks {α : Type} {member : Production α} (members : Tracks input member) :
    Tracks input (braced member) :=
  (accept_tracks _).bind fun _ => .ite (manyUntil_tracks _ members) (pure_tracks _)

/-- The interfaces that a type implements. -/
theorem interfaces_tracks : Tracks input interfaces :=
  peek_tracks.bind fun _ =>
    .ite (advance_tracks.bind fun _ => separated_tracks _ namedType_tracks) (pure_tracks _)

/-- The root type of an operation. -/
theorem operationType_tracks : Tracks input operationType :=
  peek_tracks.bind fun _ =>
    .ite (advance_tracks.bind fun _ => (expect_tracks _ (by nofun)).bind fun _ =>
        namedType_tracks.bind fun _ => (spanFrom_tracks _).bind fun _ => pure_tracks _)
      (reject_tracks (by nofun))

/-- A value of an enumeration. A reserved name is passed before it is refused, and the brace
around it stays open. -/
theorem enumMember_tracked {cursor : Cursor} {place : Nat} (stands : cursor.At input place)
    (inside : 0 < cursor.depth) : Tracked input place (enumMember cursor) := by
  refine (peek_tracks.tracked stands).bindWith ?_
  intro first _ _ peeked _ _
  obtain ⟨-, rfl⟩ := peek_accepted.mp peeked
  refine (description_tracks.tracked stands).bindWith ?_
  intro described moved later describing order behind
  refine (((expectName_tracks _).tracked behind).mono order).bindWith ?_
  intro name _ last naming orderLast after
  obtain ⟨kind, rfl, rfl⟩ := expect_accepted.mp naming
  refine .ite (fun _ => ?_) (fun _ => ?_)
  · have within := Input.place_lt (behind.current ▸ kind) (by decide)
    have level := (description_level stands.ended describing).trans
      (.pass behind.ended (kind ▸ by decide))
    rw [behind.current]
    exact .rejected (.enclosed order (by nofun) (behind.pass within) (level.depth ▸ inside))
  · exact ((directives_tracks.bind fun _ => (spanFrom_tracks _).bind fun _ =>
      pure_tracks _).tracked after).mono orderLast

/-- The values of an enumeration. -/
theorem enumMembers_tracks : Tracks input (braced enumMember) := by
  refine ⟨fun {cursor place} stands => ?_⟩
  refine ((accept_tracks _).tracked stands).bindWith ?_
  intro found moved later accepting order behind
  obtain ⟨brace, rfl, rfl⟩ | ⟨-, rfl, rfl⟩ := accept_accepted.mp accepting
  · have inside : 0 < cursor.advance.depth := by
      rw [Cursor.advance_depth stands.ended, brace]
      exact Nat.succ_pos _
    have members : Tracked input later
        (many (fun token => decide (token.kind ≠ .rightBrace)) enumMember cursor.advance) :=
      collect_tracked (fun cursor => 0 < cursor.depth)
        (fun _ stands inside => enumMember_tracked stands inside)
        (fun _ stands inside read => (enumMember_level stands.ended read).depth ▸ inside)
        _ behind inside
    refine Tracked.mono (members.bindWith ?_) order
    intro _ _ _ _ order behind
    exact ((advance_tracks.bind fun _ => pure_tracks _).tracked behind).mono order
  · exact .accepted order behind

/-! ## Definitions -/

/-- An object or interface type. -/
theorem fieldedType_tracks (role : NameRole) (first : Token) (described : Option Text) :
    Tracks input (fieldedType role first described) :=
  advance_tracks.bind fun _ => (expectName_tracks _).bind fun _ =>
    interfaces_tracks.bind fun _ => directives_tracks.bind fun _ =>
      (braced_tracks field_tracks).bind fun _ => (spanFrom_tracks _).bind fun _ =>
        pure_tracks _

/-- A schema block. -/
theorem schemaBlock_tracks (first : Token) (described : Option Text) :
    Tracks input (schemaBlock first described) :=
  advance_tracks.bind fun _ => directives_tracks.bind fun _ =>
    (expect_tracks _ (by nofun)).bind fun _ =>
      (manyUntil_tracks _ operationType_tracks).bind fun _ =>
        .ite (reject_tracks (by nofun)) ((spanFrom_tracks _).bind fun _ => pure_tracks _)

/-- A scalar type. -/
theorem scalarType_tracks (first : Token) (described : Option Text) :
    Tracks input (scalarType first described) :=
  advance_tracks.bind fun _ => (expectName_tracks _).bind fun _ =>
    directives_tracks.bind fun _ => (spanFrom_tracks _).bind fun _ => pure_tracks _

/-- The members of a union. -/
theorem unionMembers_tracks : Tracks input unionMembers :=
  (accept_tracks _).bind fun _ => .ite (separated_tracks _ namedType_tracks) (pure_tracks _)

/-- A union. -/
theorem unionType_tracks (first : Token) (described : Option Text) :
    Tracks input (unionType first described) :=
  advance_tracks.bind fun _ => (expectName_tracks _).bind fun _ =>
    directives_tracks.bind fun _ => unionMembers_tracks.bind fun _ =>
      (spanFrom_tracks _).bind fun _ => pure_tracks _

/-- An enumeration. -/
theorem enumType_tracks (first : Token) (described : Option Text) :
    Tracks input (enumType first described) :=
  advance_tracks.bind fun _ => (expectName_tracks _).bind fun _ =>
    directives_tracks.bind fun _ => enumMembers_tracks.bind fun _ =>
      (spanFrom_tracks _).bind fun _ => pure_tracks _

/-- An input type. -/
theorem inputType_tracks (first : Token) (described : Option Text) :
    Tracks input (inputType first described) :=
  advance_tracks.bind fun _ => (expectName_tracks _).bind fun _ =>
    directives_tracks.bind fun _ => (braced_tracks inputValue_tracks).bind fun _ =>
      (spanFrom_tracks _).bind fun _ => pure_tracks _

/-- The word that allows a directive more than once. -/
theorem repeatability_tracks : Tracks input repeatability :=
  peek_tracks.bind fun _ => .ite (advance_tracks.bind fun _ => pure_tracks _) (pure_tracks _)

/-- The word before the locations of a directive. -/
theorem onKeyword_tracks : Tracks input onKeyword :=
  peek_tracks.bind fun _ => .ite advance_tracks (reject_tracks (by nofun))

/-- The declaration of a directive. -/
theorem directiveDeclaration_tracks (first : Token) (described : Option Text) :
    Tracks input (directiveDeclaration first described) :=
  advance_tracks.bind fun _ => (expect_tracks _ (by nofun)).bind fun _ =>
    (expectName_tracks _).bind fun _ => argumentDeclarations_tracks.bind fun _ =>
      repeatability_tracks.bind fun _ => onKeyword_tracks.bind fun _ =>
        (separated_tracks _ (expectName_tracks _)).bind fun _ =>
          (spanFrom_tracks _).bind fun _ => pure_tracks _

/-- An extension is refused at its keyword. -/
theorem extension_tracked {α : Type} {cursor : Cursor} {place : Nat}
    (stands : cursor.At input place) (word : cursor.current.kind = .name) :
    Tracked input place (extension cursor : Outcome α) := by
  have moved := stands.pass (Input.place_lt (stands.current ▸ word) (by decide))
  rw [extension, stands.current]
  split
  · next named =>
    rw [moved.current] at named
    have behind := moved.pass (Input.place_lt named (by decide))
    exact .rejected (.extendedKind (Nat.le_refl _) behind named)
  · next bare => exact .rejected (.extension (Nat.le_refl _) moved (moved.current ▸ bare))

/-- What comes behind a description. -/
theorem definitionOf_tracks (first : Token) (described : Option Text) :
    Tracks input (definitionOf first described) := by
  refine ⟨fun {cursor place} stands => ?_⟩
  refine (peek_tracks.tracked stands).bindWith ?_
  intro keyword _ _ peeked _ _
  obtain ⟨rfl, rfl⟩ := peek_accepted.mp peeked
  have made {γ : Type} {production : Production γ} (form : γ → Definition)
      (tracks : Tracks input production) :
      Tracked input place ((do pure (form (← production)) : Production Definition) cursor) :=
    (tracks.bind fun _ => pure_tracks _).tracked stands
  refine .ite (fun _ => (reject_tracks (by nofun)).tracked stands) fun word => ?_
  refine .ite (fun _ => made _ (schemaBlock_tracks _ _)) fun _ => ?_
  refine .ite (fun _ => made _ (scalarType_tracks _ _)) fun _ => ?_
  refine .ite (fun _ => made _ (fieldedType_tracks _ _ _)) fun _ => ?_
  refine .ite (fun _ => made _ (fieldedType_tracks _ _ _)) fun _ => ?_
  refine .ite (fun _ => made _ (unionType_tracks _ _)) fun _ => ?_
  refine .ite (fun _ => made _ (enumType_tracks _ _)) fun _ => ?_
  refine .ite (fun _ => made _ (inputType_tracks _ _)) fun _ => ?_
  refine .ite (fun _ => made _ (directiveDeclaration_tracks _ _)) fun _ => ?_
  refine .ite (fun _ => extension_tracked stands (Decidable.not_not.mp word)) fun _ => ?_
  exact (Tracks.ite (reject_tracks (by nofun)) (reject_tracks (by nofun))).tracked stands

/-- A definition with its description. -/
theorem definition_tracks : Tracks input definition :=
  peek_tracks.bind fun _ => description_tracks.bind fun _ => definitionOf_tracks _ _

end Grammar

end SchemaForge

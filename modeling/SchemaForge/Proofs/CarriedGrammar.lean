import SchemaForge.Proofs.CarriedReading
import SchemaForge.Proofs.ParallelGrammar

/-!
# The grammar, carried to another place

Every production of the schema language carries: what it accepts in a document by itself it
accepts behind some lines and in front of another definition, with the spans carried along.
Each proof follows its production from front to back, and the value at the end is the carried
one by definition.

A member or a definition may begin with a string, and so may what comes behind the document.
There the two readings would differ, but a member is never accepted where its own document has
ended, so it is enough to look at it in front of a token. Types and constants are carried by
induction on the tokens ahead.
-/

namespace SchemaForge

/-- A type begins with a name or a bracket. -/
theorem typeReference_begins : BeginsWith [.name, .leftBracket] TypePhrase := by
  have bare : BeginsWith [.name, .leftBracket] BareTypePhrase := by
    intro words tree derived
    cases derived with
    | named mention =>
      obtain ⟨⟨name⟩⟩ := mention
      exact ⟨_, _, rfl, by simp⟩
    | list opened inner closed =>
      obtain ⟨spelling⟩ := opened
      exact ⟨_, _, rfl, by simp⟩
  intro words tree derived
  cases derived with
  | nullable phrase => exact bare phrase
  | nonNull phrase marked =>
    obtain ⟨word, others, rfl, member⟩ := bare phrase
    exact ⟨word, _, rfl, member⟩

/-- The value of a word is carried with its span. -/
theorem leafValue_mapSpans (place : Span → Span) (span : Span) (word : Reading) :
    leafValue (place span) word = (leafValue span word).map (Value.mapSpans place) := by
  obtain ⟨kind, spelling⟩ := word
  cases kind with
  | name =>
    unfold leafValue
    repeat' split
    all_goals rfl
  | _ => rfl

namespace Placement

open Production Grammar

variable {place : Placement} {left right : Cursor}

/-! ## Types -/

/-- In front of a string the description is that string. -/
theorem description_given {cursor : Cursor} (quoted : cursor.current.isString = true) :
    description cursor = (do
      let token ← Production.advance
      pure (some token.value) : Production (Option Text)) cursor :=
  congrFun (if_pos quoted) cursor

/-- In front of another token there is no description, and nothing is passed. -/
theorem description_missing {cursor : Cursor} (plain : ¬ cursor.current.isString = true) :
    description cursor = (pure none : Production (Option Text)) cursor :=
  congrFun (if_neg plain) cursor

/-- A description that is there is carried, whatever was passed before it. -/
theorem description_carries_given (near : place.Ahead left right) (some : left.rest ≠ [])
    (quoted : left.current.isString = true) :
    place.Carries id (description left) (description right) := by
  have quotedRight : right.current.isString = true := by
    rw [near.current some]
    exact quoted
  rw [description_given quoted, description_given quotedRight]
  refine (advance_carries near some).bind ?_
  intro _ _ _ near
  exact pure_carries rfl near

/-- A description is read on both sides or on neither, in front of a token. -/
theorem description_carries (near : place.Beside left right) (some : left.rest ≠ []) :
    place.Carries id (description left) (description right) := by
  by_cases quoted : left.current.isString = true
  · exact description_carries_given near.toAhead some quoted
  · have plain : ¬ right.current.isString = true := by
      rw [near.current some]
      exact quoted
    rw [description_missing quoted, description_missing plain]
    exact pure_carries rfl near

/-- A type by its name is carried. -/
theorem namedType_carries (near : place.Beside left right) :
    place.Carries (NamedType.mapSpans place.span) (namedType left) (namedType right) := by
  refine (expectName_carries _ near).bind ?_
  intro token _ _ near
  refine (spanFrom_carries token near).bind ?_
  intro _ _ _ near
  exact pure_carries rfl near

/-- An exclamation mark is read on both sides or on neither. -/
theorem nullability_carries (first : Token) (type : TypeReference)
    (near : place.Beside left right) :
    place.Carries (TypeReference.mapSpans place.span) (nullability first type left)
      (nullability (place.token first) (type.mapSpans place.span) right) := by
  refine (accept_carries (by decide) near).bind ?_
  intro found _ _ near
  cases found with
  | false => exact pure_carries rfl near
  | true =>
    refine (spanFrom_carries first near).bind ?_
    intro _ _ _ near
    exact pure_carries rfl near

/-- A type is carried. By induction on the tokens ahead. -/
theorem typeReference_carries (near : place.Beside left right) :
    place.Carries (TypeReference.mapSpans place.span) (typeReference left)
      (typeReference right) := by
  induction size : left.rest.length using Nat.strongRecOn generalizing left right with
  | ind size inductionHypothesis =>
    refine carries_inside
      (rest_ne_nil_of_reads typeReference_reads typeReference_begins near.ended) ?_
    intro some
    have current := near.current some
    have ended := near.ended
    have endedRight : right.finish.kind = .endOfInput := near.finish ▸ place.ended
    by_cases bracket : left.current.kind = .leftBracket
    · obtain ⟨_, _, sees⟩ := Cursor.sees_of_kind ended bracket (by decide)
      have bracketRight : right.current.kind = .leftBracket := by
        rw [current]
        exact bracket
      obtain ⟨_, _, seesRight⟩ := Cursor.sees_of_kind endedRight bracketRight (by decide)
      rw [typeReference_bracketed sees, typeReference_bracketed seesRight, current]
      refine (inductionHypothesis _ (size ▸ sees.fewer) (near.advance some) rfl).bind ?_
      intro element _ _ near
      refine (expect_carries (by decide) near).bind ?_
      intro _ _ _ near
      refine (spanFrom_carries _ near).bind ?_
      intro span _ _ near
      exact nullability_carries _ (.list element span) near
    · have sees : left.Sees (left.rest.map Token.reading) := ⟨rfl, ended⟩
      have seesRight : right.Sees (right.rest.map Token.reading) := ⟨rfl, endedRight⟩
      have bracketRight : right.current.kind ≠ .leftBracket := by
        rw [current]
        exact bracket
      rw [typeReference_bare sees (sees.kind ▸ bracket),
        typeReference_bare seesRight (seesRight.kind ▸ bracketRight), current]
      refine (namedType_carries near).bind ?_
      intro type _ _ near
      exact nullability_carries _ (.named type) near

/-! ## Constants -/

/-- A field of an object is carried, if its value is. -/
theorem objectField_carries
    {value : (inner : Cursor) → inner.rest.length < left.rest.length → Outcome Value}
    {other : (inner : Cursor) → inner.rest.length < right.rest.length → Outcome Value}
    (values : ∀ {inner behind} (fewer : inner.rest.length < left.rest.length)
      (less : behind.rest.length < right.rest.length), place.Beside inner behind →
        place.Carries (Value.mapSpans place.span) (value inner fewer) (other behind less))
    (near : place.Beside left right) :
    place.Carries (ObjectField.mapSpans place.span) (objectField left value)
      (objectField right other) := by
  refine (expectName_carries _ near).bind ?_
  intro name _ _ moved
  refine (expect_carries (by decide) moved).bind ?_
  intro _ inner behind moved
  have valued : place.Carries (Value.mapSpans place.span)
      ((fun inner => if fewer : inner.rest.length < left.rest.length then value inner fewer
        else reject .expectedValue inner : Production Value) inner)
      ((fun inner => if less : inner.rest.length < right.rest.length then other inner less
        else reject .expectedValue inner : Production Value) behind) := by
    have lessIff : behind.rest.length < right.rest.length ↔
        inner.rest.length < left.rest.length := by
      rw [moved.length, near.length]
      omega
    by_cases fewer : inner.rest.length < left.rest.length
    · simp only [fewer, lessIff.mpr fewer, ↓reduceDIte]
      exact values fewer (lessIff.mpr fewer) moved
    · simp only [fewer, ↓reduceDIte]
      exact .rejected
  refine valued.bind ?_
  intro _ _ _ near
  refine (spanFrom_carries name near).bind ?_
  intro _ _ _ near
  exact pure_carries rfl near

/-- A constant is carried. By induction on the tokens ahead: what is inside brackets has fewer
of them. -/
theorem constant_carries (near : place.Beside left right) :
    place.Carries (Value.mapSpans place.span) (constant left) (constant right) := by
  induction size : left.rest.length using Nat.strongRecOn generalizing left right with
  | ind size inductionHypothesis =>
    refine carries_inside (rest_ne_nil_of_reads constant_reads constant_begins near.ended) ?_
    intro some
    have current := near.current some
    have ended := near.ended
    have endedRight : right.finish.kind = .endOfInput := near.finish ▸ place.ended
    have kindRight : right.current.kind = left.current.kind := by
      rw [current]
      rfl
    have moved := near.advance some
    by_cases list : left.current.kind = .leftBracket
    · obtain ⟨_, _, sees⟩ := Cursor.sees_of_kind ended list (by decide)
      obtain ⟨_, _, seesRight⟩ :=
        Cursor.sees_of_kind endedRight (kindRight.trans list) (by decide)
      rw [Comparison.constant_bracketed sees sees.fewer,
        Comparison.constant_bracketed seesRight seesRight.fewer, current]
      refine collectUntil_carries (by decide) (constant_within _) constant_begins
        (fun within _ near => inductionHypothesis _ (size ▸ within) near rfl)
        sees.fewer seesRight.fewer moved ?_
      intro values _ _ near
      refine (spanFrom_carries _ near).bind ?_
      intro _ _ _ near
      refine pure_carries ?_ near
      rw [Value.mapSpans, Value.mapAllSpans_eq_map]
    by_cases object : left.current.kind = .leftBrace
    · obtain ⟨_, _, sees⟩ := Cursor.sees_of_kind ended object (by decide)
      obtain ⟨_, _, seesRight⟩ :=
        Cursor.sees_of_kind endedRight (kindRight.trans object) (by decide)
      rw [Comparison.constant_braced sees sees.fewer,
        Comparison.constant_braced seesRight seesRight.fewer, current]
      refine collectUntil_carries (by decide) (objectField_within (constant_within _))
        objectField_begins
        (fun within _ near => objectField_carries (fun fewer _ near =>
          inductionHypothesis _ (size ▸ Nat.lt_trans fewer within) near rfl) near)
        sees.fewer seesRight.fewer moved ?_
      intro fields _ _ near
      refine (spanFrom_carries _ near).bind ?_
      intro _ _ _ near
      refine pure_carries ?_ near
      rw [Value.mapSpans, ObjectField.mapAllSpans_eq_map]
    have spans : right.advance.spanFrom right.current =
        place.span (left.advance.spanFrom left.current) := by
      obtain ⟨last, taken, -⟩ := (spanFrom_carries left.current moved).keeps
        (spanFrom_accepted.mpr ⟨rfl, rfl⟩)
      rw [current]
      exact (spanFrom_accepted.mp taken).1
    have reading : right.current.reading = left.current.reading := by
      rw [current]
      rfl
    rw [Comparison.constant_flat ended list object,
      Comparison.constant_flat endedRight (kindRight ▸ list) (kindRight ▸ object), spans, reading,
      leafValue_mapSpans]
    cases leafValue (left.advance.spanFrom left.current) left.current.reading with
    | none => exact .rejected
    | some value => exact pure_carries rfl moved

/-! ## Lists in brackets -/

section Bracketed

variable {α β γ : Type} {carry : α → γ} {item : Production α} {other : Production γ}
  {view : α → β} {phrase : Phrase β} {ends : List Reading → Prop} {kinds : List TokenKind}

/-- Items in parentheses, of which there is at least one, are carried. -/
theorem parenthesized_carries (fault : GrammarFault) (reads : Reads item view phrase Anywhere ends)
    (begins : BeginsWith kinds phrase)
    (items : ∀ {left right}, place.Beside left right →
      place.Carries carry (item left) (other right)) (near : place.Beside left right) :
    place.Carries (List.map carry)
      ((do
        if ← accept .leftParen then
          let given ← manyUntil .rightParen item
          if given.isEmpty then reject fault else pure given
        else pure [] : Production (List α)) left)
      ((do
        if ← accept .leftParen then
          let given ← manyUntil .rightParen other
          if given.isEmpty then reject fault else pure given
        else pure [] : Production (List γ)) right) := by
  refine (accept_carries (by decide) near).bind ?_
  intro found _ _ near
  cases found with
  | false => exact pure_carries rfl near
  | true =>
    refine (manyUntil_carries (by decide) reads begins items near).bind ?_
    intro given _ _ near
    cases given with
    | nil => exact .rejected
    | cons value values => exact pure_carries rfl near

/-- Items in braces are carried. -/
theorem braced_carries (reads : Reads item view phrase Anywhere ends)
    (begins : BeginsWith kinds phrase)
    (items : ∀ {left right}, place.Beside left right →
      place.Carries carry (item left) (other right)) (near : place.Beside left right) :
    place.Carries (List.map carry) (braced item left) (braced other right) := by
  refine (accept_carries (by decide) near).bind ?_
  intro found _ _ near
  cases found with
  | false => exact pure_carries rfl near
  | true => exact manyUntil_carries (by decide) reads begins items near

end Bracketed

/-! ## Directives -/

/-- An argument is carried. -/
theorem argument_carries (near : place.Beside left right) :
    place.Carries (Argument.mapSpans place.span) (argument left) (argument right) := by
  refine (expectName_carries _ near).bind ?_
  intro name _ _ near
  refine (expect_carries (by decide) near).bind ?_
  intro _ _ _ near
  refine (constant_carries near).bind ?_
  intro _ _ _ near
  refine (spanFrom_carries name near).bind ?_
  intro _ _ _ near
  exact pure_carries rfl near

/-- Arguments are carried. -/
theorem arguments_carries (near : place.Beside left right) :
    place.Carries (List.map (Argument.mapSpans place.span)) (arguments left) (arguments right) :=
  parenthesized_carries _ argument_reads argument_begins argument_carries near

/-- A directive is carried. It is asked for only at its sign. -/
theorem directive_carries (near : place.Beside left right)
    (sign : left.current.kind = TokenKind.at) :
    place.Carries (Directive.mapSpans place.span) (directive left) (directive right) := by
  refine (advance_carries near.toAhead (near.rest_ne_nil (by rw [sign]; decide))).bind ?_
  intro first _ _ near
  refine (expectName_carries _ near).bind ?_
  intro _ _ _ near
  refine (arguments_carries near).bind ?_
  intro _ _ _ near
  refine (spanFrom_carries first near).bind ?_
  intro _ _ _ near
  exact pure_carries rfl near

/-- Directives are carried. -/
theorem directives_carries (near : place.Beside left right) :
    place.Carries (List.map (Directive.mapSpans place.span)) (directives left)
      (directives right) :=
  many_carries (by decide) directive_carries near

/-! ## Members -/

/-- A default value is carried. -/
theorem defaultValue_carries (near : place.Beside left right) :
    place.Carries (Option.map (Value.mapSpans place.span)) (defaultValue left)
      (defaultValue right) := by
  refine (accept_carries (by decide) near).bind ?_
  intro found _ _ near
  cases found with
  | false => exact pure_carries rfl near
  | true =>
    refine (constant_carries near).bind ?_
    intro _ _ _ near
    exact pure_carries rfl near

/-- An input value is carried. -/
theorem inputValue_carries (near : place.Beside left right) :
    place.Carries (InputValue.mapSpans place.span) (inputValue left) (inputValue right) := by
  refine carries_inside (rest_ne_nil_of_reads inputValue_reads inputValue_begins near.ended) ?_
  intro some
  refine peek_carries near.toAhead some ?_
  refine (description_carries near some).bind ?_
  intro _ _ _ near
  refine (expectName_carries _ near).bind ?_
  intro _ _ _ near
  refine (expect_carries (by decide) near).bind ?_
  intro _ _ _ near
  refine (typeReference_carries near).bind ?_
  intro _ _ _ near
  refine (defaultValue_carries near).bind ?_
  intro _ _ _ near
  refine (directives_carries near).bind ?_
  intro _ _ _ near
  refine (spanFrom_carries left.current near).bind ?_
  intro _ _ _ near
  exact pure_carries rfl near

/-- Declared arguments are carried. -/
theorem argumentDeclarations_carries (near : place.Beside left right) :
    place.Carries (List.map (InputValue.mapSpans place.span)) (argumentDeclarations left)
      (argumentDeclarations right) :=
  parenthesized_carries _ inputValue_reads inputValue_begins inputValue_carries near

/-- A field is carried. -/
theorem field_carries (near : place.Beside left right) :
    place.Carries (Field.mapSpans place.span) (field left) (field right) := by
  refine carries_inside (rest_ne_nil_of_reads field_reads field_begins near.ended) ?_
  intro some
  refine peek_carries near.toAhead some ?_
  refine (description_carries near some).bind ?_
  intro _ _ _ near
  refine (expectName_carries _ near).bind ?_
  intro _ _ _ near
  refine (argumentDeclarations_carries near).bind ?_
  intro _ _ _ near
  refine (expect_carries (by decide) near).bind ?_
  intro _ _ _ near
  refine (typeReference_carries near).bind ?_
  intro _ _ _ near
  refine (directives_carries near).bind ?_
  intro _ _ _ near
  refine (spanFrom_carries left.current near).bind ?_
  intro _ _ _ near
  exact pure_carries rfl near

/-- A value of an enumeration is carried. A reserved name is accepted on neither side. -/
theorem enumMember_carries (near : place.Beside left right) :
    place.Carries (EnumMember.mapSpans place.span) (enumMember left) (enumMember right) := by
  refine carries_inside (rest_ne_nil_of_reads enumMember_reads enumMember_begins near.ended) ?_
  intro some
  refine peek_carries near.toAhead some ?_
  refine (description_carries near some).bind ?_
  intro _ _ _ near
  refine (expectName_carries _ near).bind ?_
  intro name _ _ near
  by_cases reserved : reservedEnumValues.contains name.value = true
  · rw [if_pos reserved]
    exact .rejected
  · have unreserved : ¬ reservedEnumValues.contains (place.token name).value = true := reserved
    rw [if_neg reserved, if_neg unreserved]
    refine (directives_carries near).bind ?_
    intro _ _ _ near
    refine (spanFrom_carries left.current near).bind ?_
    intro _ _ _ near
    exact pure_carries rfl near

/-! ## Parts of definitions -/

/-- The interfaces of a type are carried. -/
theorem interfaces_carries (near : place.Beside left right) :
    place.Carries (List.map (NamedType.mapSpans place.span)) (interfaces left)
      (interfaces right) := by
  refine word_carries (by decide) (by decide) near ?_ (pure_carries rfl near)
  intro some
  refine (advance_carries near.toAhead some).bind ?_
  intro _ _ _ near
  exact separated_carries (by decide) namedType_carries near

/-- The members of a union are carried. -/
theorem unionMembers_carries (near : place.Beside left right) :
    place.Carries (List.map (NamedType.mapSpans place.span)) (unionMembers left)
      (unionMembers right) := by
  refine (accept_carries (by decide) near).bind ?_
  intro found _ _ near
  cases found with
  | false => exact pure_carries rfl near
  | true => exact separated_carries (by decide) namedType_carries near

/-- The root type of an operation is carried. -/
theorem operationType_carries (near : place.Beside left right) :
    place.Carries (OperationType.mapSpans place.span) (operationType left)
      (operationType right) := by
  refine word_carries (by decide) (by decide) near ?_ .rejected
  intro some
  refine (advance_carries near.toAhead some).bind ?_
  intro _ _ _ near
  refine (expect_carries (by decide) near).bind ?_
  intro _ _ _ near
  refine (namedType_carries near).bind ?_
  intro _ _ _ near
  refine (spanFrom_carries left.current near).bind ?_
  intro _ _ _ near
  exact pure_carries rfl near

/-- The word that allows a directive more than once is read on both sides or on neither. -/
theorem repeatability_carries (near : place.Beside left right) :
    place.Carries id (repeatability left) (repeatability right) := by
  refine word_carries (by decide) (by decide) near ?_ (pure_carries rfl near)
  intro some
  refine (advance_carries near.toAhead some).bind ?_
  intro _ _ _ near
  exact pure_carries rfl near

/-- The word before the locations of a directive is wanted on both sides. -/
theorem onKeyword_carries (near : place.Beside left right) :
    place.Carries place.token (onKeyword left) (onKeyword right) :=
  word_carries (by decide) (by decide) near (advance_carries near.toAhead) .rejected

/-! ## Definitions -/

section Definitions

variable (first : Token) (described : Option Text) (near : place.Ahead left right)
  (some : left.rest ≠ [])

include near some

/-- An object or interface type is carried. -/
theorem fieldedType_carries (role : NameRole) :
    place.Carries (FieldedType.mapSpans place.span) (fieldedType role first described left)
      (fieldedType role (place.token first) described right) := by
  refine (advance_carries near some).bind ?_
  intro _ _ _ near
  refine (expectName_carries _ near).bind ?_
  intro _ _ _ near
  refine (interfaces_carries near).bind ?_
  intro _ _ _ near
  refine (directives_carries near).bind ?_
  intro _ _ _ near
  refine (braced_carries field_reads field_begins field_carries near).bind ?_
  intro _ _ _ near
  refine (spanFrom_carries first near).bind ?_
  intro _ _ _ near
  exact pure_carries rfl near

/-- A schema block is carried. -/
theorem schemaBlock_carries :
    place.Carries (SchemaBlock.mapSpans place.span) (schemaBlock first described left)
      (schemaBlock (place.token first) described right) := by
  refine (advance_carries near some).bind ?_
  intro _ _ _ near
  refine (directives_carries near).bind ?_
  intro _ _ _ near
  refine (expect_carries (by decide) near).bind ?_
  intro _ _ _ near
  refine (manyUntil_carries (by decide) operationType_reads operationType_begins
    operationType_carries near).bind ?_
  intro operations _ _ near
  cases operations with
  | nil => exact .rejected
  | cons operation operations =>
    refine (spanFrom_carries first near).bind ?_
    intro _ _ _ near
    exact pure_carries rfl near

/-- A scalar type is carried. -/
theorem scalarType_carries :
    place.Carries (ScalarType.mapSpans place.span) (scalarType first described left)
      (scalarType (place.token first) described right) := by
  refine (advance_carries near some).bind ?_
  intro _ _ _ near
  refine (expectName_carries _ near).bind ?_
  intro _ _ _ near
  refine (directives_carries near).bind ?_
  intro _ _ _ near
  refine (spanFrom_carries first near).bind ?_
  intro _ _ _ near
  exact pure_carries rfl near

/-- A union is carried. -/
theorem unionType_carries :
    place.Carries (UnionType.mapSpans place.span) (unionType first described left)
      (unionType (place.token first) described right) := by
  refine (advance_carries near some).bind ?_
  intro _ _ _ near
  refine (expectName_carries _ near).bind ?_
  intro _ _ _ near
  refine (directives_carries near).bind ?_
  intro _ _ _ near
  refine (unionMembers_carries near).bind ?_
  intro _ _ _ near
  refine (spanFrom_carries first near).bind ?_
  intro _ _ _ near
  exact pure_carries rfl near

/-- An enumeration is carried. -/
theorem enumType_carries :
    place.Carries (EnumType.mapSpans place.span) (enumType first described left)
      (enumType (place.token first) described right) := by
  refine (advance_carries near some).bind ?_
  intro _ _ _ near
  refine (expectName_carries _ near).bind ?_
  intro _ _ _ near
  refine (directives_carries near).bind ?_
  intro _ _ _ near
  refine (braced_carries enumMember_reads enumMember_begins enumMember_carries near).bind ?_
  intro _ _ _ near
  refine (spanFrom_carries first near).bind ?_
  intro _ _ _ near
  exact pure_carries rfl near

/-- An input type is carried. -/
theorem inputType_carries :
    place.Carries (InputType.mapSpans place.span) (inputType first described left)
      (inputType (place.token first) described right) := by
  refine (advance_carries near some).bind ?_
  intro _ _ _ near
  refine (expectName_carries _ near).bind ?_
  intro _ _ _ near
  refine (directives_carries near).bind ?_
  intro _ _ _ near
  refine (braced_carries inputValue_reads inputValue_begins inputValue_carries near).bind ?_
  intro _ _ _ near
  refine (spanFrom_carries first near).bind ?_
  intro _ _ _ near
  exact pure_carries rfl near

/-- The declaration of a directive is carried. Its locations are words and have no spans. -/
theorem directiveDeclaration_carries :
    place.Carries (DirectiveDeclaration.mapSpans place.span)
      (directiveDeclaration first described left)
      (directiveDeclaration (place.token first) described right) := by
  refine (advance_carries near some).bind ?_
  intro _ _ _ near
  refine (expect_carries (by decide) near).bind ?_
  intro _ _ _ near
  refine (expectName_carries _ near).bind ?_
  intro _ _ _ near
  refine (argumentDeclarations_carries near).bind ?_
  intro _ _ _ near
  refine (repeatability_carries near).bind ?_
  intro _ _ _ near
  refine (onKeyword_carries near).bind ?_
  intro _ _ _ near
  refine (separated_carries (by decide) (expectName_carries _) near).bind ?_
  intro locations _ _ near
  refine (spanFrom_carries first near).bind ?_
  intro _ _ _ near
  refine pure_carries ?_ near
  have words : (locations.map place.token).map Token.value = locations.map Token.value := by
    rw [List.map_map]
    rfl
  rw [words]
  rfl

end Definitions

/-- A definition of one sort is carried if its content is. -/
theorem chosen_carries {α : Type} {carry : α → α} {production other : Production α}
    (wrap : α → Definition) (wraps : ∀ value, (wrap value).mapSpans place.span = wrap (carry value))
    (carries : place.Carries carry (production left) (other right)) :
    place.Carries (Definition.mapSpans place.span)
      ((do pure (wrap (← production)) : Production Definition) left)
      ((do pure (wrap (← other)) : Production Definition) right) := by
  refine carries.bind ?_
  intro value _ _ near
  exact pure_carries (wraps value).symm near

/-- The definition behind a description is carried: its keyword decides. -/
theorem definitionOf_carries (first : Token) (described : Option Text)
    (near : place.Ahead left right) :
    place.Carries (Definition.mapSpans place.span) (definitionOf first described left)
      (definitionOf (place.token first) described right) := by
  by_cases named : left.current.kind = .name
  · have some := near.rest_ne_nil (by rw [named]; decide)
    refine peek_carries near some ?_
    have kind : (place.token left.current).kind = left.current.kind := rfl
    have value : (place.token left.current).value = left.current.value := rfl
    have unnamed : ¬ left.current.kind ≠ .name := Decidable.not_not.mpr named
    rw [kind, value, if_neg unnamed, if_neg unnamed]
    by_cases schemaWord : left.current.value = ("schema" : Text)
    · rw [if_pos schemaWord, if_pos schemaWord]
      exact chosen_carries .schema (fun _ => rfl) (schemaBlock_carries first described near some)
    rw [if_neg schemaWord, if_neg schemaWord]
    by_cases scalarWord : left.current.value = ("scalar" : Text)
    · rw [if_pos scalarWord, if_pos scalarWord]
      exact chosen_carries .scalar (fun _ => rfl) (scalarType_carries first described near some)
    rw [if_neg scalarWord, if_neg scalarWord]
    by_cases typeWord : left.current.value = ("type" : Text)
    · rw [if_pos typeWord, if_pos typeWord]
      exact chosen_carries .object (fun _ => rfl) (fieldedType_carries first described near some _)
    rw [if_neg typeWord, if_neg typeWord]
    by_cases interfaceWord : left.current.value = ("interface" : Text)
    · rw [if_pos interfaceWord, if_pos interfaceWord]
      exact chosen_carries .interface (fun _ => rfl)
        (fieldedType_carries first described near some _)
    rw [if_neg interfaceWord, if_neg interfaceWord]
    by_cases unionWord : left.current.value = ("union" : Text)
    · rw [if_pos unionWord, if_pos unionWord]
      exact chosen_carries .union (fun _ => rfl) (unionType_carries first described near some)
    rw [if_neg unionWord, if_neg unionWord]
    by_cases enumWord : left.current.value = ("enum" : Text)
    · rw [if_pos enumWord, if_pos enumWord]
      exact chosen_carries .enum (fun _ => rfl) (enumType_carries first described near some)
    rw [if_neg enumWord, if_neg enumWord]
    by_cases inputWord : left.current.value = ("input" : Text)
    · rw [if_pos inputWord, if_pos inputWord]
      exact chosen_carries .inputObject (fun _ => rfl)
        (inputType_carries first described near some)
    rw [if_neg inputWord, if_neg inputWord]
    by_cases directiveWord : left.current.value = ("directive" : Text)
    · rw [if_pos directiveWord, if_pos directiveWord]
      exact chosen_carries .directive (fun _ => rfl)
        (directiveDeclaration_carries first described near some)
    rw [if_neg directiveWord, if_neg directiveWord]
    -- The other keywords are refused, whatever is behind them.
    by_cases extendWord : left.current.value = ("extend" : Text)
    · rw [if_pos extendWord]
      exact .rejected
    rw [if_neg extendWord]
    split <;> exact .rejected
  · have refused : definitionOf first described left = reject .expectedDefinition left :=
      congrFun (if_pos named) left
    rw [refused]
    exact .rejected

/-- A definition is carried, whatever was passed before it: its description passes the first
token, or where there is none its keyword does. -/
theorem definition_carries (near : place.Ahead left right) (some : left.rest ≠ []) :
    place.Carries (Definition.mapSpans place.span) (definition left) (definition right) := by
  refine peek_carries near some ?_
  by_cases quoted : left.current.isString = true
  · refine (description_carries_given near some quoted).bind ?_
    intro described _ _ near
    exact definitionOf_carries left.current described near.toAhead
  · have plain : ¬ right.current.isString = true := by
      rw [near.current some]
      exact quoted
    have undescribed {cursor : Cursor} (first : Token) (other : ¬ cursor.current.isString = true) :
        (do
          let described ← description
          definitionOf first described : Production Definition) cursor =
          definitionOf first none cursor := by
      simp only [bind, description_missing other]
      rfl
    rw [undescribed _ quoted, undescribed _ plain]
    exact definitionOf_carries left.current none near

end Placement

end SchemaForge

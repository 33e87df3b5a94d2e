import SchemaForge.Proofs.BracketDepth
import SchemaForge.Proofs.DefinitionReading
import SchemaForge.Proofs.ParallelReading

/-!
# The grammar, side by side

Every production of the schema language reads alike on both sides of a comparison: the values
agree up to their spans, or the faults are the same. Each proof follows its production from
front to back.

Three places are of interest. The recursive productions are compared by induction on the
tokens ahead. A reserved value of an enumeration is reported at its name but stops behind it;
the readings cannot part there, because the braces are still open. And an extension stops two
tokens behind its keyword, where a comparison has to promise that the readings do not part.
-/

namespace SchemaForge

/-- A token other than the end of input is the first word ahead. -/
theorem Cursor.sees_of_kind {cursor : Cursor} {kind : TokenKind}
    (ended : cursor.finish.kind = .endOfInput) (found : cursor.current.kind = kind)
    (proper : kind ≠ .endOfInput) :
    ∃ spelling others, cursor.Sees ((kind, spelling) :: others) := by
  have sees : cursor.Sees (cursor.rest.map Token.reading) := ⟨rfl, ended⟩
  obtain ⟨spelling, others, same⟩ := exists_of_nextKind (sees.kind.symm.trans found) proper
  exact ⟨spelling, others, same ▸ sees⟩

namespace Comparison

open Production Grammar

variable {side : Comparison} {left right : Cursor}

/-- A span is taken on both sides, whatever it is. -/
theorem spanFrom_alike (first other : Token) (near : side.cursors left right) :
    side.Alike (fun _ _ => True) (spanFrom first left) (spanFrom other right) :=
  .accepted trivial near

/-- The next token is looked at on both sides, whatever it is. -/
theorem peek_alike (near : side.cursors left right) :
    side.Alike (fun _ _ => True) (peek left) (peek right) :=
  .accepted trivial near

/-! ## Types -/

/-- A description is read on both sides or on neither. -/
theorem description_alike (near : side.cursors left right) :
    side.Alike Eq (description left) (description right) := by
  have agrees : left.current.isString = right.current.isString :=
    side.test_eq TokenKind.isString rfl near
  refine side.peek_bind near ?_ ?_
  · intro same
    by_cases quoted : left.current.isString = true
    · rw [if_pos quoted, if_pos (agrees ▸ quoted)]
      refine (side.advance_alike near same).bind ?_
      intro _ _ _ _ _ near
      exact .accepted (congrArg some (side.value_eq same)) near
    · rw [if_neg quoted, if_neg (agrees ▸ quoted)]
      exact .accepted rfl near
  · intro parted
    have quoted : ¬ left.current.isString = true := by
      rw [Token.isString, side.parted_kind near parted]
      decide
    rw [if_neg quoted, if_neg (agrees ▸ quoted)]
    exact .accepted rfl near

/-- A type by its name is read alike. -/
theorem namedType_alike (near : side.cursors left right) :
    side.Alike (Same NamedType.withoutSpans) (namedType left) (namedType right) := by
  refine (side.expectName_alike _ near).bind ?_
  intro token other _ _ same near
  refine (side.spanFrom_alike token other near).bind ?_
  intro _ _ _ _ _ near
  refine .accepted ?_ near
  simp [Same, NamedType.withoutSpans, side.value_eq same]

/-- An exclamation mark is read on both sides or on neither. -/
theorem nullability_alike (first other : Token) {type given : TypeReference}
    (agree : Same TypeReference.withoutSpans type given) (near : side.cursors left right) :
    side.Alike (Same TypeReference.withoutSpans) (nullability first type left)
      (nullability other given right) := by
  refine (side.accept_alike (by decide) (by decide) near).bind ?_
  rintro found _ _ _ rfl near
  cases found with
  | false => exact .accepted agree near
  | true =>
    refine (side.spanFrom_alike first other near).bind ?_
    intro _ _ _ _ _ near
    refine .accepted ?_ near
    unfold Same at agree
    simp [Same, TypeReference.withoutSpans, agree]

/-- A type is read alike. By induction on the tokens ahead. -/
theorem typeReference_alike (near : side.cursors left right) :
    side.Alike (Same TypeReference.withoutSpans) (typeReference left) (typeReference right) := by
  induction size : left.rest.length using Nat.strongRecOn generalizing left right with
  | ind size inductionHypothesis =>
    obtain ⟨ended, endedRight⟩ := side.finish near
    by_cases bracket : left.current.kind = .leftBracket
    · have same := side.together near (by rw [bracket]; decide)
      obtain ⟨_, _, sees⟩ := Cursor.sees_of_kind ended bracket (by decide)
      obtain ⟨_, _, seesRight⟩ :=
        Cursor.sees_of_kind endedRight (side.kind_eq same ▸ bracket) (by decide)
      rw [typeReference_bracketed sees, typeReference_bracketed seesRight]
      refine (inductionHypothesis _ (size ▸ sees.fewer) (side.advance near same) rfl).bind ?_
      intro element given _ _ agree near
      refine (side.expect_alike _ (by decide) near).bind ?_
      intro _ _ _ _ _ near
      refine (side.spanFrom_alike _ _ near).bind ?_
      intro _ _ _ _ _ near
      refine side.nullability_alike _ _ ?_ near
      unfold Same at agree
      simp [Same, TypeReference.withoutSpans, agree]
    · have bracketRight : right.current.kind ≠ .leftBracket := by
        have agrees := side.test_eq (fun kind => decide (kind = .leftBracket)) rfl near
        simpa [bracket] using agrees
      have bare (cursor : Cursor) (ended : cursor.finish.kind = .endOfInput)
          (other : cursor.current.kind ≠ .leftBracket) :
          typeReference cursor = (do
            nullability cursor.current (.named (← namedType)) : Production TypeReference)
              cursor := by
        have sees : cursor.Sees (cursor.rest.map Token.reading) := ⟨rfl, ended⟩
        exact typeReference_bare sees (sees.kind ▸ other)
      rw [bare left ended bracket, bare right endedRight bracketRight]
      refine (side.namedType_alike near).bind ?_
      intro type given _ _ agree near
      refine side.nullability_alike _ _ ?_ near
      unfold Same at agree
      simp [Same, TypeReference.withoutSpans, agree]

/-! ## Constants -/

/-- The value of a word does not depend on the span but for the span. -/
theorem leafValue_span (span other : Span) (word : Reading) :
    (leafValue span word).map Value.withoutSpans =
      (leafValue other word).map Value.withoutSpans := by
  obtain ⟨kind, spelling⟩ := word
  cases kind with
  | name =>
    unfold leafValue
    repeat' split
    all_goals rfl
  | _ => rfl

/-- A constant that opens no bracket is decided by one token. -/
theorem constant_flat {cursor : Cursor} (ended : cursor.finish.kind = .endOfInput)
    (noList : cursor.current.kind ≠ .leftBracket) (noObject : cursor.current.kind ≠ .leftBrace) :
    constant cursor =
      match leafValue (cursor.advance.spanFrom cursor.current) cursor.current.reading with
      | some value => .accepted value cursor.advance
      | none =>
        reject (if cursor.current.kind = .dollar then .variableInConstant else .expectedValue)
          cursor := by
  rw [constant]
  split
  · next none =>
    have finished : cursor.current = cursor.finish := by
      rw [Cursor.current, none]
      rfl
    simp [finished, Token.reading, ended, leafValue]
  · next token tokens ahead =>
    have first : cursor.current = token := by
      rw [Cursor.current, ahead]
      rfl
    rw [first] at noList noObject ⊢
    unfold Token.reading
    generalize kind : token.kind = sort at noList noObject
    cases sort with
    | leftBracket => exact absurd rfl noList
    | leftBrace => exact absurd rfl noObject
    | name =>
      simp only [leafValue]
      split
      · rfl
      · split
        · rfl
        · split <;> rfl
    | _ => rfl

/-- A list is its values and the closing bracket, behind the opening one. -/
theorem constant_bracketed {cursor : Cursor} {spelling : Text} {others : List Reading}
    (sees : cursor.Sees ((.leftBracket, spelling) :: others))
    (fewer : cursor.advance.rest.length < cursor.rest.length) :
    constant cursor =
      (do
        let values ← fun _ =>
          collect (fun token => decide (token.kind ≠ .rightBracket)) cursor.rest.length
            (fun inner _ => constant inner) cursor.advance fewer
        let _ ← Production.advance
        pure (.list values (← spanFrom cursor.current)) : Production Value) cursor.advance := by
  have kind : cursor.current.kind = .leftBracket := sees.kind
  obtain ⟨tokens, first⟩ := sees.exists_rest
  rw [constant]
  split
  · next ahead => exact absurd (first.symm.trans ahead) (List.cons_ne_nil _ _)
  · next token _ ahead =>
    obtain ⟨same, rfl⟩ := List.cons.inj (first.symm.trans ahead)
    rw [same] at kind ⊢
    simp only [kind, bind]
    cases collect _ _ _ cursor.advance _ <;> rfl

/-- An object is its fields and the closing brace, behind the opening one. -/
theorem constant_braced {cursor : Cursor} {spelling : Text} {others : List Reading}
    (sees : cursor.Sees ((.leftBrace, spelling) :: others))
    (fewer : cursor.advance.rest.length < cursor.rest.length) :
    constant cursor =
      (do
        let fields ← fun _ =>
          collect (fun token => decide (token.kind ≠ .rightBrace)) cursor.rest.length
            (fun field _ => objectField field (fun inner _ => constant inner)) cursor.advance fewer
        let _ ← Production.advance
        pure (.object fields (← spanFrom cursor.current)) : Production Value) cursor.advance := by
  have kind : cursor.current.kind = .leftBrace := sees.kind
  obtain ⟨tokens, first⟩ := sees.exists_rest
  rw [constant]
  split
  · next ahead => exact absurd (first.symm.trans ahead) (List.cons_ne_nil _ _)
  · next token _ ahead =>
    obtain ⟨same, rfl⟩ := List.cons.inj (first.symm.trans ahead)
    rw [same] at kind ⊢
    simp only [kind, bind]
    cases collect _ _ _ cursor.advance _ <;> rfl

/-- A field of an object is read alike, if its value is. -/
theorem objectField_alike
    {value : (inner : Cursor) → inner.rest.length < left.rest.length → Outcome Value}
    {other : (inner : Cursor) → inner.rest.length < right.rest.length → Outcome Value}
    (values : ∀ {inner behind} (fewer : inner.rest.length < left.rest.length)
      (less : behind.rest.length < right.rest.length), side.cursors inner behind →
        side.Alike (Same Value.withoutSpans) (value inner fewer) (other behind less))
    (near : side.cursors left right) :
    side.Alike (Same ObjectField.withoutSpans) (objectField left value)
      (objectField right other) := by
  refine (side.expectName_alike _ near).bind ?_
  intro name given inner behind same moved
  rw [side.value_eq same]
  refine (side.expect_alike _ (by decide) moved).bind ?_
  intro _ _ inner behind _ moved
  have valued : side.Alike (Same Value.withoutSpans)
      ((fun inner => if fewer : inner.rest.length < left.rest.length then value inner fewer
        else reject .expectedValue inner : Production Value) inner)
      ((fun inner => if less : inner.rest.length < right.rest.length then other inner less
        else reject .expectedValue inner : Production Value) behind) := by
    have lessIff : behind.rest.length < right.rest.length ↔
        inner.rest.length < left.rest.length := by
      rw [side.length moved, side.length near]
      omega
    by_cases fewer : inner.rest.length < left.rest.length
    · simp only [fewer, lessIff.mpr fewer, ↓reduceDIte]
      exact values fewer (lessIff.mpr fewer) moved
    · simp only [fewer, mt lessIff.mp fewer, ↓reduceDIte]
      exact side.reject_alike _ moved
  refine valued.bind ?_
  intro _ _ _ _ agree near
  refine (side.spanFrom_alike name given near).bind ?_
  intro _ _ _ _ _ near
  refine .accepted ?_ near
  unfold Same at agree
  simp [Same, ObjectField.withoutSpans, agree]

/-- A constant is read alike. By induction on the tokens ahead: what is inside brackets has
fewer of them. -/
theorem constant_alike (near : side.cursors left right) :
    side.Alike (Same Value.withoutSpans) (constant left) (constant right) := by
  induction size : left.rest.length using Nat.strongRecOn generalizing left right with
  | ind size inductionHypothesis =>
    obtain ⟨ended, endedRight⟩ := side.finish near
    by_cases list : left.current.kind = .leftBracket
    · have same := side.together near (by rw [list]; decide)
      have moved := side.advance near same
      obtain ⟨_, _, sees⟩ := Cursor.sees_of_kind ended list (by decide)
      obtain ⟨_, _, seesRight⟩ :=
        Cursor.sees_of_kind endedRight (side.kind_eq same ▸ list) (by decide)
      rw [constant_bracketed sees sees.fewer, constant_bracketed seesRight seesRight.fewer]
      refine side.collectUntil_alike (fun _ => True) (by decide) (by decide) (constant_within _)
        constant_begins (fun within _ near _ => inductionHypothesis _ (size ▸ within) near rfl)
        (fun _ _ _ => trivial) sees.fewer seesRight.fewer moved trivial ?_
      intro values others _ _ agree near
      refine (side.spanFrom_alike _ _ near).bind ?_
      intro _ _ _ _ _ near
      refine .accepted ?_ near
      unfold Same at agree
      simp [Same, Value.withoutSpans, Value.eraseAll_eq_map, agree]
    by_cases object : left.current.kind = .leftBrace
    · have same := side.together near (by rw [object]; decide)
      have moved := side.advance near same
      obtain ⟨_, _, sees⟩ := Cursor.sees_of_kind ended object (by decide)
      obtain ⟨_, _, seesRight⟩ :=
        Cursor.sees_of_kind endedRight (side.kind_eq same ▸ object) (by decide)
      rw [constant_braced sees sees.fewer, constant_braced seesRight seesRight.fewer]
      refine side.collectUntil_alike (fun _ => True) (by decide) (by decide)
        (objectField_within (constant_within _)) objectField_begins
        (fun within _ near _ => side.objectField_alike (fun fewer _ near =>
          inductionHypothesis _ (size ▸ Nat.lt_trans fewer within) near rfl) near)
        (fun _ _ _ => trivial) sees.fewer seesRight.fewer moved trivial ?_
      intro fields others _ _ agree near
      refine (side.spanFrom_alike _ _ near).bind ?_
      intro _ _ _ _ _ near
      refine .accepted ?_ near
      unfold Same at agree
      simp [Same, Value.withoutSpans, ObjectField.eraseAll_eq_map, agree]
    rw [constant_flat ended list object]
    obtain same | ⟨parted, -⟩ := side.ahead near
    · rw [constant_flat endedRight (side.kind_eq same ▸ list) (side.kind_eq same ▸ object),
        ← side.kind_eq same, ← side.reading same]
      have agrees := leafValue_span (left.advance.spanFrom left.current)
        (right.advance.spanFrom right.current) left.current.reading
      generalize leafValue (left.advance.spanFrom left.current) _ = value at agrees
      generalize leafValue (right.advance.spanFrom right.current) _ = other at agrees
      cases value with
      | none =>
        obtain rfl := Option.map_eq_none_iff.mp agrees.symm
        exact side.reject_alike _ near
      | some value =>
        obtain ⟨given, rfl, agree⟩ := Option.map_eq_some_iff.mp agrees.symm
        exact .accepted agree.symm (side.advance near same)
    · have none : leafValue (left.advance.spanFrom left.current) left.current.reading = none := by
        rw [Token.reading, side.parted_kind near parted]
        rfl
      rw [none]
      exact .ended parted rfl

/-! ## Lists in brackets -/

section Bracketed

variable {α β : Type} {item : Production α} {view : α → β} {phrase : Phrase β}
  {ends : List Reading → Prop} {kinds : List TokenKind}

/-- Items in parentheses, of which there is at least one, are read alike. -/
theorem parenthesized_alike (fault : GrammarFault) (reads : Reads item view phrase Anywhere ends)
    (begins : BeginsWith kinds phrase)
    (items : ∀ {left right}, side.cursors left right →
      side.Alike (Same view) (item left) (item right)) (near : side.cursors left right) :
    side.Alike (Same (List.map view))
      ((do
        if ← accept .leftParen then
          let given ← manyUntil .rightParen item
          if given.isEmpty then reject fault else pure given
        else pure [] : Production (List α)) left)
      ((do
        if ← accept .leftParen then
          let given ← manyUntil .rightParen item
          if given.isEmpty then reject fault else pure given
        else pure [] : Production (List α)) right) := by
  refine (side.accept_alike (by decide) (by decide) near).bind ?_
  rintro found _ _ _ rfl near
  cases found with
  | false => exact .accepted rfl near
  | true =>
    refine (side.manyUntil_alike (by decide) (by decide) reads begins items near).bind ?_
    intro given others _ _ agree near
    cases given with
    | nil =>
      obtain rfl := List.map_eq_nil_iff.mp agree.symm
      exact side.reject_alike fault near
    | cons value values =>
      obtain ⟨other, rest, rfl, -, -⟩ := List.map_eq_cons_iff.mp agree.symm
      exact .accepted agree near

/-- Items in braces are read alike. What holds in front of an item may be relied on. -/
theorem braced_alikeWhile (holds : Cursor → Prop) (reads : Reads item view phrase Anywhere ends)
    (begins : BeginsWith kinds phrase)
    (items : ∀ {left right}, side.cursors left right → holds left →
      side.Alike (Same view) (item left) (item right))
    (keeps : ∀ {left value moved}, holds left → item left = .accepted value moved → holds moved)
    (near : side.cursors left right)
    (opened : left.current.kind = .leftBrace → holds left.advance) :
    side.Alike (Same (List.map view)) (braced item left) (braced item right) := by
  refine (side.accept_alike (by decide) (by decide) near).bindWith ?_
  rintro found _ moved _ accepted rfl near
  obtain ⟨brace, rfl, rfl⟩ | ⟨-, rfl, rfl⟩ := accept_accepted.mp accepted
  · exact side.manyUntil_alikeWhile holds (by decide) (by decide) reads begins items keeps near
      (opened brace)
  · exact .accepted rfl near

/-- Items in braces are read alike. -/
theorem braced_alike (reads : Reads item view phrase Anywhere ends)
    (begins : BeginsWith kinds phrase)
    (items : ∀ {left right}, side.cursors left right →
      side.Alike (Same view) (item left) (item right)) (near : side.cursors left right) :
    side.Alike (Same (List.map view)) (braced item left) (braced item right) :=
  side.braced_alikeWhile (fun _ => True) reads begins (fun near _ => items near)
    (fun _ _ => trivial) near (fun _ => trivial)

end Bracketed

/-! ## Directives -/

/-- An argument is read alike. -/
theorem argument_alike (near : side.cursors left right) :
    side.Alike (Same Argument.withoutSpans) (argument left) (argument right) := by
  refine (side.expectName_alike _ near).bind ?_
  intro name given _ _ same near
  rw [side.value_eq same]
  refine (side.expect_alike _ (by decide) near).bind ?_
  intro _ _ _ _ _ near
  refine (side.constant_alike near).bind ?_
  intro _ _ _ _ agree near
  refine (side.spanFrom_alike _ _ near).bind ?_
  intro _ _ _ _ _ near
  refine .accepted ?_ near
  unfold Same at agree
  simp [Same, Argument.withoutSpans, agree]

/-- Arguments are read alike. -/
theorem arguments_alike (near : side.cursors left right) :
    side.Alike (Same (List.map Argument.withoutSpans)) (arguments left) (arguments right) :=
  side.parenthesized_alike _ argument_reads argument_begins side.argument_alike near

/-- A directive is read alike. It is asked for only at its sign. -/
theorem directive_alike (near : side.cursors left right)
    (sign : left.current.kind = TokenKind.at) :
    side.Alike (Same Directive.withoutSpans) (directive left) (directive right) := by
  refine (side.advance_alike near (side.together near (by rw [sign]; decide))).bind ?_
  intro _ _ _ _ _ near
  refine (side.expectName_alike _ near).bind ?_
  intro name given _ _ same near
  refine (side.arguments_alike near).bind ?_
  intro _ _ _ _ agree near
  refine (side.spanFrom_alike _ _ near).bind ?_
  intro _ _ _ _ _ near
  refine .accepted ?_ near
  unfold Same at agree
  simp [Same, Directive.withoutSpans, side.value_eq same, agree]

/-- Directives are read alike. -/
theorem directives_alike (near : side.cursors left right) :
    side.Alike (Same (List.map Directive.withoutSpans)) (directives left) (directives right) :=
  side.many_alike (by decide) (by decide) side.directive_alike near

/-! ## Members -/

/-- A default value is read alike. -/
theorem defaultValue_alike (near : side.cursors left right) :
    side.Alike (Same (Option.map Value.withoutSpans)) (defaultValue left) (defaultValue right) := by
  refine (side.accept_alike (by decide) (by decide) near).bind ?_
  rintro found _ _ _ rfl near
  cases found with
  | false => exact .accepted rfl near
  | true =>
    refine (side.constant_alike near).bind ?_
    intro _ _ _ _ agree near
    exact .accepted (congrArg some agree) near

/-- An input value is read alike. -/
theorem inputValue_alike (near : side.cursors left right) :
    side.Alike (Same InputValue.withoutSpans) (inputValue left) (inputValue right) := by
  refine (side.peek_alike near).bind ?_
  intro first other _ _ _ near
  refine (side.description_alike near).bind ?_
  rintro described _ _ _ rfl near
  refine (side.expectName_alike _ near).bind ?_
  intro name given _ _ same near
  rw [side.value_eq same]
  refine (side.expect_alike _ (by decide) near).bind ?_
  intro _ _ _ _ _ near
  refine (side.typeReference_alike near).bind ?_
  intro _ _ _ _ types near
  refine (side.defaultValue_alike near).bind ?_
  intro _ _ _ _ defaults near
  refine (side.directives_alike near).bind ?_
  intro _ _ _ _ applied near
  refine (side.spanFrom_alike first other near).bind ?_
  intro _ _ _ _ _ near
  refine .accepted ?_ near
  unfold Same at types defaults applied
  simp [Same, InputValue.withoutSpans, types, defaults, applied]

/-- Declared arguments are read alike. -/
theorem argumentDeclarations_alike (near : side.cursors left right) :
    side.Alike (Same (List.map InputValue.withoutSpans)) (argumentDeclarations left)
      (argumentDeclarations right) :=
  side.parenthesized_alike _ inputValue_reads inputValue_begins side.inputValue_alike near

/-- A field is read alike. -/
theorem field_alike (near : side.cursors left right) :
    side.Alike (Same Field.withoutSpans) (field left) (field right) := by
  refine (side.peek_alike near).bind ?_
  intro first other _ _ _ near
  refine (side.description_alike near).bind ?_
  rintro described _ _ _ rfl near
  refine (side.expectName_alike _ near).bind ?_
  intro name given _ _ same near
  refine (side.argumentDeclarations_alike near).bind ?_
  intro _ _ _ _ declared near
  rw [side.value_eq same]
  refine (side.expect_alike _ (by decide) near).bind ?_
  intro _ _ _ _ _ near
  refine (side.typeReference_alike near).bind ?_
  intro _ _ _ _ types near
  refine (side.directives_alike near).bind ?_
  intro _ _ _ _ applied near
  refine (side.spanFrom_alike first other near).bind ?_
  intro _ _ _ _ _ near
  refine .accepted ?_ near
  unfold Same at declared types applied
  simp [Same, Field.withoutSpans, declared, types, applied]

/-- A value of an enumeration is read alike inside of braces. A reserved name is passed before
it is reported, and where brackets are open the readings do not part. -/
theorem enumMember_alike (near : side.cursors left right) (inside : 0 < left.depth) :
    side.Alike (Same EnumMember.withoutSpans) (enumMember left) (enumMember right) := by
  have ended := (side.finish near).1
  refine (side.peek_alike near).bindWith ?_
  rintro first other _ _ peeked - near
  obtain ⟨-, rfl⟩ := peek_accepted.mp peeked
  refine (side.description_alike near).bindWith ?_
  rintro described _ _ _ describing rfl near
  have level := description_level ended describing
  refine (side.expectName_alike _ near).bindWith ?_
  intro name given moved _ naming same near
  have named := level.trans (expect_level _ (by decide) (level.ended ended) naming)
  rw [side.value_eq same]
  split
  · have together : ¬ side.parted moved := by
      intro parted
      have flat := side.parted_depth parted
      have depth := named.depth
      omega
    exact .rejected same near ((side.ahead near).resolve_right (fun parts => together parts.1))
  · refine (side.directives_alike near).bind ?_
    intro _ _ _ _ applied near
    refine (side.spanFrom_alike first other near).bind ?_
    intro _ _ _ _ _ near
    refine .accepted ?_ near
    unfold Same at applied
    simp [Same, EnumMember.withoutSpans, applied]

/-! ## Parts of definitions -/

/-- A word that is next on both sides, or on neither, and is no keyword of a definition.
Where it is next the tokens correspond. -/
theorem word_bind {α : Type} {values : α → α → Prop} {names : List Text} (some : names ≠ [])
    (foreign : ∀ name ∈ names, name ∉ definitionKeywords) {given other : Token → Production α}
    {otherwise : Production α} (near : side.cursors left right)
    (found : side.tokens left.current right.current →
      side.Alike values (given left.current left) (other right.current right))
    (absent : side.Alike values (otherwise left) (otherwise right)) :
    side.Alike values
      ((do
        let token ← peek
        if token.isNameIn names then given token else otherwise : Production α) left)
      ((do
        let token ← peek
        if token.isNameIn names then other token else otherwise : Production α) right) := by
  have agrees := side.isNameIn_eq some foreign near
  change side.Alike values
    ((if left.current.isNameIn names then given left.current else otherwise) left)
    ((if right.current.isNameIn names then other right.current else otherwise) right)
  by_cases next : left.current.isNameIn names = true
  · rw [if_pos next, if_pos (agrees ▸ next)]
    refine found (side.together near ?_)
    have named : left.current.kind = .name := by
      simp only [Token.isNameIn, Token.isName, Bool.and_eq_true, decide_eq_true_eq] at next
      exact next.1
    rw [named]
    decide
  · rw [if_neg next, if_neg (agrees ▸ next)]
    exact absent

/-- The interfaces of a type are read alike. -/
theorem interfaces_alike (near : side.cursors left right) :
    side.Alike (Same (List.map NamedType.withoutSpans)) (interfaces left) (interfaces right) := by
  refine side.word_bind (by decide) (by decide) near ?_ (.accepted rfl near)
  intro same
  refine (side.advance_alike near same).bind ?_
  intro _ _ _ _ _ near
  exact side.separated_alike (by decide) (by decide) side.namedType_alike near

/-- The members of a union are read alike. -/
theorem unionMembers_alike (near : side.cursors left right) :
    side.Alike (Same (List.map NamedType.withoutSpans)) (unionMembers left)
      (unionMembers right) := by
  refine (side.accept_alike (by decide) (by decide) near).bind ?_
  rintro found _ _ _ rfl near
  cases found with
  | false => exact .accepted rfl near
  | true => exact side.separated_alike (by decide) (by decide) side.namedType_alike near

/-- The root type of an operation is read alike. -/
theorem operationType_alike (near : side.cursors left right) :
    side.Alike (Same OperationType.withoutSpans) (operationType left) (operationType right) := by
  refine side.word_bind (by decide) (by decide) near ?_ (side.reject_alike _ near)
  intro operation
  refine (side.advance_alike near operation).bind ?_
  intro _ _ _ _ _ near
  refine (side.expect_alike _ (by decide) near).bind ?_
  intro _ _ _ _ _ near
  refine (side.namedType_alike near).bind ?_
  intro _ _ _ _ agree near
  refine (side.spanFrom_alike _ _ near).bind ?_
  intro _ _ _ _ _ near
  refine .accepted ?_ near
  unfold Same at agree
  simp [Same, OperationType.withoutSpans, side.value_eq operation, agree]

/-- The word that allows a directive more than once is read on both sides or on neither. -/
theorem repeatability_alike (near : side.cursors left right) :
    side.Alike Eq (repeatability left) (repeatability right) := by
  refine side.word_bind (by decide) (by decide) near ?_ (.accepted rfl near)
  intro same
  refine (side.advance_alike near same).bind ?_
  intro _ _ _ _ _ near
  exact .accepted rfl near

/-- The word before the locations of a directive is wanted on both sides. -/
theorem onKeyword_alike (near : side.cursors left right) :
    side.Alike side.tokens (onKeyword left) (onKeyword right) :=
  side.word_bind (by decide) (by decide) near (fun same => side.advance_alike near same)
    (side.reject_alike _ near)

/-- The locations of a directive are read alike. -/
theorem locations_alike (near : side.cursors left right) :
    side.Alike (Same (List.map Token.value)) (separated .pipe (expectName .directiveLocation) left)
      (separated .pipe (expectName .directiveLocation) right) :=
  side.separated_alike (by decide) (by decide)
    (fun near => (side.expectName_alike _ near).mono side.value_eq) near

/-- The values of an enumeration are read alike: behind the opening brace, and level from one
value to the next. -/
theorem enumValues_alike (near : side.cursors left right) :
    side.Alike (Same (List.map EnumMember.withoutSpans)) (braced enumMember left)
      (braced enumMember right) := by
  have ended := (side.finish near).1
  refine side.braced_alikeWhile
    (fun cursor => 0 < cursor.depth ∧ cursor.finish.kind = .endOfInput) enumMember_reads
    enumMember_begins (fun near held => side.enumMember_alike near held.1) ?_ near ?_
  · rintro cursor value moved ⟨inside, ended⟩ read
    have level := enumMember_level ended read
    exact ⟨level.depth ▸ inside, level.ended ended⟩
  · intro brace
    rw [Cursor.advance_depth ended, brace, Cursor.advance_finish]
    exact ⟨Nat.succ_pos _, ended⟩

/-! ## Definitions -/

section Definitions

variable {first other : Token} {described : Option Text}
  (near : side.cursors left right) (keyword : side.tokens left.current right.current)

include near keyword

/-- An object or interface type is read alike. -/
theorem fieldedType_alike (role : NameRole) :
    side.Alike (Same FieldedType.withoutSpans) (fieldedType role first described left)
      (fieldedType role other described right) := by
  refine (side.advance_alike near keyword).bind ?_
  intro _ _ _ _ _ near
  refine (side.expectName_alike _ near).bind ?_
  intro name given _ _ same near
  refine (side.interfaces_alike near).bind ?_
  intro _ _ _ _ implemented near
  refine (side.directives_alike near).bind ?_
  intro _ _ _ _ applied near
  refine (side.braced_alike field_reads field_begins side.field_alike near).bind ?_
  intro _ _ _ _ fields near
  refine (side.spanFrom_alike first other near).bind ?_
  intro _ _ _ _ _ near
  refine .accepted ?_ near
  unfold Same at implemented applied fields
  simp [Same, FieldedType.withoutSpans, side.value_eq same, implemented, applied, fields]

/-- A schema block is read alike. -/
theorem schemaBlock_alike :
    side.Alike (Same SchemaBlock.withoutSpans) (schemaBlock first described left)
      (schemaBlock other described right) := by
  refine (side.advance_alike near keyword).bind ?_
  intro _ _ _ _ _ near
  refine (side.directives_alike near).bind ?_
  intro _ _ _ _ applied near
  refine (side.expect_alike _ (by decide) near).bind ?_
  intro _ _ _ _ _ near
  refine (side.manyUntil_alike (by decide) (by decide) operationType_reads operationType_begins
    side.operationType_alike near).bind ?_
  intro operations others _ _ agree near
  cases operations with
  | nil =>
    obtain rfl := List.map_eq_nil_iff.mp agree.symm
    exact side.reject_alike _ near
  | cons operation operations =>
    obtain ⟨other', rest, rfl, -, -⟩ := List.map_eq_cons_iff.mp agree.symm
    refine (side.spanFrom_alike first other near).bind ?_
    intro _ _ _ _ _ near
    refine .accepted ?_ near
    unfold Same at applied agree
    simp only [Same, SchemaBlock.withoutSpans, applied, agree]

/-- A scalar type is read alike. -/
theorem scalarType_alike :
    side.Alike (Same ScalarType.withoutSpans) (scalarType first described left)
      (scalarType other described right) := by
  refine (side.advance_alike near keyword).bind ?_
  intro _ _ _ _ _ near
  refine (side.expectName_alike _ near).bind ?_
  intro name given _ _ same near
  refine (side.directives_alike near).bind ?_
  intro _ _ _ _ applied near
  refine (side.spanFrom_alike first other near).bind ?_
  intro _ _ _ _ _ near
  refine .accepted ?_ near
  unfold Same at applied
  simp [Same, ScalarType.withoutSpans, side.value_eq same, applied]

/-- A union is read alike. -/
theorem unionType_alike :
    side.Alike (Same UnionType.withoutSpans) (unionType first described left)
      (unionType other described right) := by
  refine (side.advance_alike near keyword).bind ?_
  intro _ _ _ _ _ near
  refine (side.expectName_alike _ near).bind ?_
  intro name given _ _ same near
  refine (side.directives_alike near).bind ?_
  intro _ _ _ _ applied near
  refine (side.unionMembers_alike near).bind ?_
  intro _ _ _ _ members near
  refine (side.spanFrom_alike first other near).bind ?_
  intro _ _ _ _ _ near
  refine .accepted ?_ near
  unfold Same at applied members
  simp [Same, UnionType.withoutSpans, side.value_eq same, applied, members]

/-- An enumeration is read alike. Its values are inside of braces. -/
theorem enumType_alike :
    side.Alike (Same EnumType.withoutSpans) (enumType first described left)
      (enumType other described right) := by
  refine (side.advance_alike near keyword).bind ?_
  intro _ _ _ _ _ near
  refine (side.expectName_alike _ near).bind ?_
  intro name given _ _ same near
  refine (side.directives_alike near).bind ?_
  intro _ _ _ _ applied near
  refine (side.enumValues_alike near).bind ?_
  intro _ _ _ _ values near
  refine (side.spanFrom_alike first other near).bind ?_
  intro _ _ _ _ _ near
  refine .accepted ?_ near
  unfold Same at applied values
  simp [Same, EnumType.withoutSpans, side.value_eq same, applied, values]

/-- An input type is read alike. -/
theorem inputType_alike :
    side.Alike (Same InputType.withoutSpans) (inputType first described left)
      (inputType other described right) := by
  refine (side.advance_alike near keyword).bind ?_
  intro _ _ _ _ _ near
  refine (side.expectName_alike _ near).bind ?_
  intro name given _ _ same near
  refine (side.directives_alike near).bind ?_
  intro _ _ _ _ applied near
  refine (side.braced_alike inputValue_reads inputValue_begins side.inputValue_alike near).bind ?_
  intro _ _ _ _ fields near
  refine (side.spanFrom_alike first other near).bind ?_
  intro _ _ _ _ _ near
  refine .accepted ?_ near
  unfold Same at applied fields
  simp [Same, InputType.withoutSpans, side.value_eq same, applied, fields]

/-- The declaration of a directive is read alike. -/
theorem directiveDeclaration_alike :
    side.Alike (Same DirectiveDeclaration.withoutSpans)
      (directiveDeclaration first described left) (directiveDeclaration other described right) := by
  refine (side.advance_alike near keyword).bind ?_
  intro _ _ _ _ _ near
  refine (side.expect_alike _ (by decide) near).bind ?_
  intro _ _ _ _ _ near
  refine (side.expectName_alike _ near).bind ?_
  intro name given _ _ same near
  refine (side.argumentDeclarations_alike near).bind ?_
  intro _ _ _ _ declared near
  refine (side.repeatability_alike near).bind ?_
  rintro repeatable _ _ _ rfl near
  refine (side.onKeyword_alike near).bind ?_
  intro _ _ _ _ _ near
  refine (side.locations_alike near).bind ?_
  intro _ _ _ _ places near
  refine (side.spanFrom_alike first other near).bind ?_
  intro _ _ _ _ _ near
  refine .accepted ?_ near
  unfold Same at declared places
  simp [Same, DirectiveDeclaration.withoutSpans, side.value_eq same, declared, places]

end Definitions

/-- An extension is refused on both sides, at its keyword and with the readings together. -/
theorem extension_alike {α : Type} {values : α → α → Prop} (near : side.cursors left right)
    (keyword : left.current.reading = (.name, ("extend" : Text))) :
    side.Alike values (Grammar.extension left) (Grammar.extension right) := by
  have named : left.current.kind = .name := congrArg Prod.fst keyword
  have same := side.together near (by rw [named]; decide)
  have moved := side.advance near same
  obtain ⟨first, second⟩ := side.extension near keyword
  have together := (side.ahead moved).resolve_right (fun parts => first parts.1)
  unfold Grammar.extension
  dsimp only
  rw [side.kind_eq together]
  split
  · next name =>
    have further := side.advance moved together
    refine .rejected same further ((side.ahead further).resolve_right (fun parts => ?_))
    exact second ((side.kind_eq together).trans name) parts.1
  · exact .rejected same moved together

/-- A definition of one sort is read alike if its content is. -/
theorem chosen_alike {α : Type} {view : α → α} {production other : Production α}
    (wrap : α → Definition) (wraps : ∀ value, (wrap value).withoutSpans = wrap (view value))
    (alike : side.Alike (Same view) (production left) (other right)) :
    side.Alike (Same Definition.withoutSpans)
      ((do pure (wrap (← production)) : Production Definition) left)
      ((do pure (wrap (← other)) : Production Definition) right) := by
  refine alike.bind ?_
  intro value given _ _ agree near
  refine .accepted ?_ near
  unfold Same at agree ⊢
  rw [wraps, wraps, agree]

/-- The definition behind a description is read alike: its keyword decides. -/
theorem definitionOf_alike {first other : Token} {described : Option Text}
    (near : side.cursors left right) :
    side.Alike (Same Definition.withoutSpans) (definitionOf first described left)
      (definitionOf other described right) := by
  refine side.peek_bind near ?_ ?_
  · intro same
    rw [← side.kind_eq same, ← side.value_eq same]
    by_cases unnamed : left.current.kind ≠ .name
    · rw [if_pos unnamed, if_pos unnamed]
      exact side.reject_alike _ near
    rw [if_neg unnamed, if_neg unnamed]
    by_cases schemaWord : left.current.value = ("schema" : Text)
    · rw [if_pos schemaWord, if_pos schemaWord]
      exact side.chosen_alike .schema (fun _ => rfl) (side.schemaBlock_alike near same)
    rw [if_neg schemaWord, if_neg schemaWord]
    by_cases scalarWord : left.current.value = ("scalar" : Text)
    · rw [if_pos scalarWord, if_pos scalarWord]
      exact side.chosen_alike .scalar (fun _ => rfl) (side.scalarType_alike near same)
    rw [if_neg scalarWord, if_neg scalarWord]
    by_cases typeWord : left.current.value = ("type" : Text)
    · rw [if_pos typeWord, if_pos typeWord]
      exact side.chosen_alike .object (fun _ => rfl) (side.fieldedType_alike near same _)
    rw [if_neg typeWord, if_neg typeWord]
    by_cases interfaceWord : left.current.value = ("interface" : Text)
    · rw [if_pos interfaceWord, if_pos interfaceWord]
      exact side.chosen_alike .interface (fun _ => rfl) (side.fieldedType_alike near same _)
    rw [if_neg interfaceWord, if_neg interfaceWord]
    by_cases unionWord : left.current.value = ("union" : Text)
    · rw [if_pos unionWord, if_pos unionWord]
      exact side.chosen_alike .union (fun _ => rfl) (side.unionType_alike near same)
    rw [if_neg unionWord, if_neg unionWord]
    by_cases enumWord : left.current.value = ("enum" : Text)
    · rw [if_pos enumWord, if_pos enumWord]
      exact side.chosen_alike .enum (fun _ => rfl) (side.enumType_alike near same)
    rw [if_neg enumWord, if_neg enumWord]
    by_cases inputWord : left.current.value = ("input" : Text)
    · rw [if_pos inputWord, if_pos inputWord]
      exact side.chosen_alike .inputObject (fun _ => rfl) (side.inputType_alike near same)
    rw [if_neg inputWord, if_neg inputWord]
    by_cases directiveWord : left.current.value = ("directive" : Text)
    · rw [if_pos directiveWord, if_pos directiveWord]
      exact side.chosen_alike .directive (fun _ => rfl) (side.directiveDeclaration_alike near same)
    rw [if_neg directiveWord, if_neg directiveWord]
    by_cases extendWord : left.current.value = ("extend" : Text)
    · rw [if_pos extendWord]
      refine side.extension_alike near ?_
      rw [Token.reading, extendWord, Decidable.not_not.mp unnamed]
    rw [if_neg extendWord]
    split <;> exact side.reject_alike _ near
  · intro parted
    have ended : left.current.kind ≠ .name := by
      rw [side.parted_kind near parted]
      decide
    rw [if_pos ended]
    exact .ended parted rfl

/-- A definition is read alike. -/
theorem definition_alike (near : side.cursors left right) :
    side.Alike (Same Definition.withoutSpans) (definition left) (definition right) := by
  refine (side.peek_alike near).bind ?_
  intro first other _ _ _ near
  refine (side.description_alike near).bind ?_
  rintro described _ _ _ rfl near
  exact side.definitionOf_alike near

end Comparison

end SchemaForge

import SchemaForge.Proofs.PhraseReading

/-!
# Two readings side by side

A production decides by the kinds and the values of the tokens ahead and by nothing else. So
two readings that stand before corresponding tokens take the same branches, and come to
corresponding results. `Comparison` says what has to correspond, `Alike` what corresponding
results are.

The first reading may come to the end of its input where the second goes on with another
definition. There the two part, and it still makes no difference to a production that may
end: the keyword of a definition goes on with nothing. A production that must not end there
is rejected on the first side, and is not compared any further. Its error is then one at the
end of input.

The grammar is not mentioned here. Each production is put together from the ones of this
module, and so are the proofs that it reads alike.
-/

namespace SchemaForge

/-- What corresponds in two readings. -/
structure Comparison where
  /-- The readings stand at corresponding places. -/
  cursors : Cursor → Cursor → Prop
  /-- The tokens correspond. -/
  tokens : Token → Token → Prop
  /-- The first reading is at the end where the second goes on. -/
  parted : Cursor → Prop
  /-- How many more tokens the second reading has ahead. -/
  excess : Nat
  /-- Corresponding tokens read the same. -/
  reading : ∀ {token other}, tokens token other → token.reading = other.reading
  /-- Both inputs end with the token for it. -/
  finish : ∀ {left right}, cursors left right →
    left.finish.kind = .endOfInput ∧ right.finish.kind = .endOfInput
  /-- The number of further tokens does not change. -/
  length : ∀ {left right}, cursors left right →
    right.rest.length = left.rest.length + excess
  /-- The next tokens correspond unless the readings part. -/
  ahead : ∀ {left right}, cursors left right → tokens left.current right.current ∨
    parted left ∧ right.current.beginsDefinition = true
  /-- Behind corresponding tokens the places correspond. -/
  advance : ∀ {left right}, cursors left right → tokens left.current right.current →
    cursors left.advance right.advance
  /-- Readings part only at the end. -/
  parted_rest : ∀ {left}, parted left → left.rest = []
  /-- Readings part only outside of brackets. -/
  parted_depth : ∀ {left}, parted left → left.depth = 0
  /-- Readings do not part behind the word that extends, nor behind the name after it. -/
  extension : ∀ {left right}, cursors left right →
    left.current.reading = (.name, ("extend" : Text)) →
    ¬ parted left.advance ∧ (left.advance.current.kind = .name → ¬ parted left.advance.advance)

/-- Two values with one view. -/
def Same {α β : Type} (view : α → β) (value other : α) : Prop := view value = view other

namespace Comparison

variable {α β : Type} {side : Comparison} {left right : Cursor}

/-- Corresponding results: values that agree, at corresponding places; or the same fault at
corresponding tokens, with the readings still together; or an error of the first reading at
the place where the two part. -/
inductive Alike (side : Comparison) (values : α → α → Prop) : Outcome α → Outcome α → Prop where
  | accepted {value other : α} {left right : Cursor} (agree : values value other)
      (near : side.cursors left right) :
      Alike side values (.accepted value left) (.accepted other right)
  | rejected {fault : GrammarFault} {token other : Token} {left right : Cursor}
      (found : side.tokens token other) (near : side.cursors left right)
      (together : side.tokens left.current right.current) :
      Alike side values (.rejected ⟨fault, token⟩ left) (.rejected ⟨fault, other⟩ right)
  | ended {error : GrammarError} {left : Cursor} {outcome : Outcome α} (parted : side.parted left)
      (found : error.found = left.current) :
      Alike side values (.rejected error left) outcome

/-! ## The tokens ahead -/

/-- Where readings part, the first one has no token ahead. -/
theorem parted_kind (near : side.cursors left right) (parted : side.parted left) :
    left.current.kind = .endOfInput := by
  rw [Cursor.current, side.parted_rest parted]
  exact (side.finish near).1

/-- A token other than the end of input corresponds to one. -/
theorem together (near : side.cursors left right) (inside : left.current.kind ≠ .endOfInput) :
    side.tokens left.current right.current :=
  (side.ahead near).resolve_right (fun parts => inside (side.parted_kind near parts.1))

/-- Corresponding tokens are of one kind. -/
theorem kind_eq {token other : Token} (same : side.tokens token other) :
    token.kind = other.kind := congrArg Prod.fst (side.reading same)

/-- Corresponding tokens have one value. -/
theorem value_eq {token other : Token} (same : side.tokens token other) :
    token.value = other.value := congrArg Prod.snd (side.reading same)

/-- What begins a definition is a name. -/
theorem kind_of_beginsDefinition {token : Token} (begins : token.beginsDefinition = true) :
    token.kind = .name := by
  unfold Token.beginsDefinition Token.isNameIn Token.isName at begins
  simpa using (Bool.and_eq_true_iff.mp begins).1

/-- A test of the kind has one answer, if it takes the end of input for a name. -/
theorem test_eq (test : TokenKind → Bool) (agrees : test .endOfInput = test .name)
    (near : side.cursors left right) : test left.current.kind = test right.current.kind := by
  obtain same | ⟨parted, begins⟩ := side.ahead near
  · rw [side.kind_eq same]
  · rw [side.parted_kind near parted, agrees, kind_of_beginsDefinition begins]

/-- Whether one of some words is next has one answer, if none of them begins a definition. -/
theorem isNameIn_eq {names : List Text} (some : names ≠ [])
    (foreign : ∀ name ∈ names, name ∉ definitionKeywords) (near : side.cursors left right) :
    left.current.isNameIn names = right.current.isNameIn names := by
  obtain same | ⟨parted, begins⟩ := side.ahead near
  · unfold Token.isNameIn Token.isName
    rw [side.kind_eq same, side.value_eq same]
  · have ended : left.current.isNameIn names = false := by
      simp [Token.isNameIn, Token.isName, side.parted_kind near parted]
    have other : right.current.isNameIn names = false := by
      unfold Token.beginsDefinition Token.isNameIn at begins
      simp only [Bool.and_eq_true, Bool.or_eq_true, List.contains_iff_mem] at begins
      have keyword := begins.2.resolve_left (by decide)
      simp only [Token.isNameIn, Bool.and_eq_false_iff, Bool.or_eq_false_iff]
      refine .inr ⟨by simpa using some, ?_⟩
      simpa using fun member => foreign _ member keyword
    rw [ended, other]

/-! ## Productions in sequence -/

section Sequences

variable {values : α → α → Prop} {results : β → β → Prop}

/-- Values that agree in one way agree in a weaker one. -/
theorem Alike.mono {weaker : α → α → Prop} {outcome other : Outcome α}
    (alike : side.Alike values outcome other)
    (implies : ∀ {value other}, values value other → weaker value other) :
    side.Alike weaker outcome other := by
  cases alike with
  | accepted agree near => exact .accepted (implies agree) near
  | rejected found near together => exact .rejected found near together
  | ended parted found => exact .ended parted found

/-- One production behind another, with what the first one accepted. -/
theorem Alike.bindWith {first other : Production α} {next behind : α → Production β}
    (alike : side.Alike values (first left) (other right))
    (rest : ∀ {value given moved last}, first left = .accepted value moved → values value given →
      side.cursors moved last → side.Alike results (next value moved) (behind given last)) :
    side.Alike results ((first >>= next) left) ((other >>= behind) right) := by
  simp only [bind]
  generalize firstRead : first left = outcome at alike
  generalize other right = reading at alike
  cases alike with
  | accepted agree near => exact rest firstRead agree near
  | rejected found near together => exact .rejected found near together
  | ended parted found => exact .ended parted found

/-- One production behind another. -/
theorem Alike.bind {first other : Production α} {next behind : α → Production β}
    (alike : side.Alike values (first left) (other right))
    (rest : ∀ {value given moved last}, values value given → side.cursors moved last →
      side.Alike results (next value moved) (behind given last)) :
    side.Alike results ((first >>= next) left) ((other >>= behind) right) :=
  alike.bindWith (fun _ => rest)

/-- Looking at the next tokens: they correspond, or the readings part. -/
theorem peek_bind {next behind : Token → Production α} (near : side.cursors left right)
    (same : side.tokens left.current right.current →
      side.Alike values (next left.current left) (behind right.current right))
    (ended : side.parted left →
      side.Alike values (next left.current left) (behind right.current right)) :
    side.Alike values ((Production.peek >>= next) left) ((Production.peek >>= behind) right) :=
  (side.ahead near).elim same (fun parts => ended parts.1)

end Sequences

/-! ## Single tokens -/

open Production

/-- Corresponding tokens are passed together. -/
theorem advance_alike (near : side.cursors left right)
    (same : side.tokens left.current right.current) :
    side.Alike side.tokens (Production.advance left) (Production.advance right) :=
  .accepted same (side.advance near same)

/-- A refusal is one on both sides, or an error at the end. -/
theorem reject_alike {values : α → α → Prop} (fault : GrammarFault)
    (near : side.cursors left right) :
    side.Alike values (reject fault left) (reject fault right) :=
  (side.ahead near).elim (fun same => .rejected same near same) (fun parts => .ended parts.1 rfl)

/-- A token of a kind is wanted on both sides. -/
theorem expect_alike {kind : TokenKind} (fault : GrammarFault) (proper : kind ≠ .endOfInput)
    (near : side.cursors left right) :
    side.Alike side.tokens (expect kind fault left) (expect kind fault right) := by
  unfold expect
  obtain same | ⟨parted, -⟩ := side.ahead near
  · rw [side.kind_eq same]
    split
    · exact .accepted same (side.advance near same)
    · exact .rejected same near same
  · rw [if_neg (by rw [side.parted_kind near parted]; exact proper.symm)]
    exact .ended parted rfl

/-- A name is wanted on both sides. -/
theorem expectName_alike (role : NameRole) (near : side.cursors left right) :
    side.Alike side.tokens (expectName role left) (expectName role right) :=
  side.expect_alike _ (by decide) near

/-- A mark is passed on both sides or on neither. -/
theorem accept_alike {kind : TokenKind} (proper : kind ≠ .endOfInput) (mark : kind ≠ .name)
    (near : side.cursors left right) :
    side.Alike Eq (accept kind left) (accept kind right) := by
  have agrees := side.test_eq (fun ahead => decide (ahead = kind))
    (by simp [proper.symm, mark.symm]) near
  unfold accept
  by_cases found : left.current.kind = kind
  · have same := side.together near (found ▸ proper)
    rw [if_pos found, if_pos (side.kind_eq same ▸ found)]
    exact .accepted rfl (side.advance near same)
  · rw [if_neg found, if_neg (by simpa [found] using agrees)]
    exact .accepted rfl near

/-! ## Loops -/

section Loops

variable {view : α → β}

/-- Items are read together for as long as the next token allows one more, if each item is.
What holds in front of an item may be relied on. By induction on the tokens ahead; both
loops stop at the same item, because both have passed the same number of tokens. -/
theorem collect_alike (test : TokenKind → Bool) (agrees : test .endOfInput = test .name)
    (holds : Cursor → Prop) {limit bound : Nat}
    {item : (cursor : Cursor) → cursor.rest.length < limit → Outcome α}
    {other : (cursor : Cursor) → cursor.rest.length < bound → Outcome α}
    (items : ∀ {left right} (within : left.rest.length < limit)
      (inside : right.rest.length < bound), side.cursors left right → holds left →
        test left.current.kind = true →
          side.Alike (Same view) (item left within) (other right inside))
    (keeps : ∀ {left value moved} (within : left.rest.length < limit), holds left →
      item left within = .accepted value moved → holds moved)
    {left right : Cursor} (within : left.rest.length < limit) (inside : right.rest.length < bound)
    (near : side.cursors left right) (held : holds left) :
    side.Alike (Same (List.map view))
      (collect (fun token => test token.kind) limit item left within)
      (collect (fun token => test token.kind) bound other right inside) := by
  induction size : left.rest.length using Nat.strongRecOn generalizing left right with
  | ind size inductionHypothesis =>
    have asked := side.test_eq test agrees near
    unfold collect
    by_cases continues : test left.current.kind = true
    · rw [if_pos continues, if_pos (asked ▸ continues)]
      have alike := items within inside near held continues
      generalize read : item left within = outcome at alike
      generalize other right inside = reading at alike
      cases alike with
      | rejected found near together => exact .rejected found near together
      | ended parted found => exact .ended parted found
      | @accepted value given moved last agree behind =>
        have fewerIff : last.rest.length < right.rest.length ↔
            moved.rest.length < left.rest.length := by
          rw [side.length behind, side.length near]
          omega
        by_cases fewer : moved.rest.length < left.rest.length
        · have rest := inductionHypothesis _ (size ▸ fewer) (Nat.lt_trans fewer within)
            (Nat.lt_trans (fewerIff.mpr fewer) inside) behind (keeps within held read) rfl
          simp only [fewer, fewerIff.mpr fewer, ↓reduceDIte]
          generalize collect _ _ item moved _ = outcome at rest
          generalize collect _ _ other last _ = reading at rest
          cases rest with
          | rejected found near together => exact .rejected found near together
          | ended parted found => exact .ended parted found
          | accepted agreeRest near =>
            refine .accepted ?_ near
            unfold Same at agree agreeRest ⊢
            rw [List.map_cons, List.map_cons, agree, agreeRest]
        · simp only [fewer, mt fewerIff.mp fewer, ↓reduceDIte]
          exact .accepted (congrArg (fun seen => [seen]) agree) behind
    · rw [if_neg continues, if_neg (asked ▸ continues)]
      exact .accepted rfl near

/-- Items up to a closing mark and then the mark are read together, and so is what comes
behind. That the loop comes to the mark is what the reading of phrases says about it. -/
theorem collectUntil_alike {γ : Type} (holds : Cursor → Prop) {closer : TokenKind}
    (proper : closer ≠ .endOfInput) (sign : closer ≠ .name) {limit bound : Nat}
    {item : (cursor : Cursor) → cursor.rest.length < limit → Outcome α}
    {other : (cursor : Cursor) → cursor.rest.length < bound → Outcome α} {phrase : Phrase β}
    {ends : List Reading → Prop} {kinds : List TokenKind}
    (reads : ReadsWithin limit item view phrase (fun _ => true) ends)
    (begins : BeginsWith kinds phrase)
    (items : ∀ {left right} (within : left.rest.length < limit)
      (inside : right.rest.length < bound), side.cursors left right → holds left →
        side.Alike (Same view) (item left within) (other right inside))
    (keeps : ∀ {left value moved} (within : left.rest.length < limit), holds left →
      item left within = .accepted value moved → holds moved)
    {left right : Cursor} (within : left.rest.length < limit) (inside : right.rest.length < bound)
    (near : side.cursors left right) (held : holds left) {results : γ → γ → Prop}
    {next behind : List α → Production γ}
    (rest : ∀ {values others left right}, Same (List.map view) values others →
      side.cursors left right → side.Alike results (next values left) (behind others right)) :
    side.Alike results
      ((do
        let values ← fun _ => collect (fun token => decide (token.kind ≠ closer)) limit item left
          within
        let _ ← Production.advance
        next values : Production γ) left)
      ((do
        let others ← fun _ => collect (fun token => decide (token.kind ≠ closer)) bound other right
          inside
        let _ ← Production.advance
        behind others : Production γ) right) := by
  have agrees : decide (TokenKind.endOfInput ≠ closer) = decide (TokenKind.name ≠ closer) := by
    simp [proper.symm, sign.symm]
  have loop := side.collect_alike (fun kind => decide (kind ≠ closer)) agrees holds
    (fun within inside near held _ => items within inside near held) keeps within inside near held
  refine loop.bindWith ?_
  intro values others last after looped agree near'
  have stopped : last.current.kind = closer :=
    collectUntil_stops reads begins (side.finish near).1 looped
  have same := side.together near' (stopped ▸ proper)
  exact (side.advance_alike near' same).bind (fun _ near => rest agree near)

variable {item : Production α}

/-- Items that a mark announces are read together. -/
theorem many_alike {mark : TokenKind} (proper : mark ≠ .endOfInput) (sign : mark ≠ .name)
    (items : ∀ {left right}, side.cursors left right → left.current.kind = mark →
      side.Alike (Same view) (item left) (item right))
    (near : side.cursors left right) :
    side.Alike (Same (List.map view))
      (many (fun token => decide (token.kind = mark)) item left)
      (many (fun token => decide (token.kind = mark)) item right) := by
  refine side.collect_alike (fun kind => decide (kind = mark)) ?_ (fun _ => True)
    (fun _ _ near _ found => items near (of_decide_eq_true found)) (fun _ _ _ => trivial) _ _ near
    trivial
  simp [proper.symm, sign.symm]

/-- Items up to a closing mark are read together with the mark. What holds in front of an
item may be relied on. -/
theorem manyUntil_alikeWhile (holds : Cursor → Prop) {closer : TokenKind}
    (proper : closer ≠ .endOfInput) (sign : closer ≠ .name) {phrase : Phrase β}
    {ends : List Reading → Prop} {kinds : List TokenKind}
    (reads : Reads item view phrase Anywhere ends) (begins : BeginsWith kinds phrase)
    (items : ∀ {left right}, side.cursors left right → holds left →
      side.Alike (Same view) (item left) (item right))
    (keeps : ∀ {left value moved}, holds left → item left = .accepted value moved → holds moved)
    (near : side.cursors left right) (held : holds left) :
    side.Alike (Same (List.map view)) (manyUntil closer item left)
      (manyUntil closer item right) := by
  have within : ReadsWithin (left.rest.length + 1) (fun inner _ => item inner) view phrase
      (fun _ => true) ends :=
    ⟨fun _ sees _ => reads.sound sees trivial, fun _ sees => reads.complete sees⟩
  exact side.collectUntil_alike holds proper sign within begins (fun _ _ => items)
    (fun _ => keeps) _ _ near held (fun agree near => .accepted agree near)

/-- Items up to a closing mark are read together with the mark. -/
theorem manyUntil_alike {closer : TokenKind} (proper : closer ≠ .endOfInput)
    (sign : closer ≠ .name) {phrase : Phrase β} {ends : List Reading → Prop}
    {kinds : List TokenKind} (reads : Reads item view phrase Anywhere ends)
    (begins : BeginsWith kinds phrase)
    (items : ∀ {left right}, side.cursors left right →
      side.Alike (Same view) (item left) (item right)) (near : side.cursors left right) :
    side.Alike (Same (List.map view)) (manyUntil closer item left)
      (manyUntil closer item right) :=
  side.manyUntil_alikeWhile (fun _ => True) proper sign reads begins
    (fun near _ => items near) (fun _ _ => trivial) near trivial

/-- Items between marks are read together. -/
theorem separated_alike {separator : TokenKind} (proper : separator ≠ .endOfInput)
    (sign : separator ≠ .name)
    (items : ∀ {left right}, side.cursors left right →
      side.Alike (Same view) (item left) (item right)) (near : side.cursors left right) :
    side.Alike (Same (List.map view)) (separated separator item left)
      (separated separator item right) := by
  have further : ∀ {left right}, side.cursors left right → left.current.kind = separator →
      side.Alike (Same view) ((do let _ ← Production.advance; item : Production α) left)
        ((do let _ ← Production.advance; item : Production α) right) := by
    intro left right near found
    exact (side.advance_alike near (side.together near (found ▸ proper))).bind
      (fun _ near => items near)
  refine (side.accept_alike proper sign near).bind ?_
  intro _ _ left right _ near
  refine (items near).bind ?_
  intro value given left right agree near
  refine (side.many_alike proper sign further near).bind ?_
  intro values others left right agreeOthers near
  refine .accepted ?_ near
  unfold Same at agree agreeOthers ⊢
  rw [List.map_cons, List.map_cons, agree, agreeOthers]

end Loops

end Comparison

end SchemaForge

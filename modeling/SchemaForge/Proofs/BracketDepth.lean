import SchemaForge.Proofs.MemberReading

/-!
# Bracket depth behind a member

A cursor counts the brackets that are left open. What a production accepts closes the
brackets that it opens, so the depth behind it is the depth in front of it. The count goes
by kinds of bracket only up to opening and closing; that the brackets match is what the
phrases say.

The statement is made for what can stand in the body of an enumeration, because there an
error may be noticed one token behind the token it is about.
-/

namespace SchemaForge

open Production Grammar

/-! ## Single tokens -/

namespace Cursor

variable {cursor : Cursor}

/-- Passing a token counts its bracket. The end of input is none. -/
theorem advance_depth (ended : cursor.finish.kind = .endOfInput) :
    cursor.advance.depth = depthAfter cursor.depth cursor.current.kind := by
  unfold advance current
  cases cursor.rest with
  | nil =>
    change cursor.depth = depthAfter cursor.depth cursor.finish.kind
    rw [ended]
    rfl
  | cons token tokens => rfl

/-- Behind the next token are the tokens that come after it. -/
theorem advance_rest : cursor.advance.rest = cursor.rest.tail := by
  unfold advance
  cases cursor.rest <;> rfl

/-- Passing a token keeps the end of input. -/
theorem advance_finish : cursor.advance.finish = cursor.finish := by
  unfold advance
  cases cursor.rest <;> rfl

/-- A cursor has come to another place at the same depth. -/
structure LevelTo (cursor last : Cursor) : Prop where
  /-- As many brackets are open as before. -/
  depth : last.depth = cursor.depth
  /-- The input is the same. -/
  finish : last.finish = cursor.finish

namespace LevelTo

variable {moved last : Cursor}

/-- A cursor is level with itself. -/
theorem refl (cursor : Cursor) : cursor.LevelTo cursor := ⟨rfl, rfl⟩

/-- Level behind level is level. -/
theorem trans (first : cursor.LevelTo moved) (second : moved.LevelTo last) :
    cursor.LevelTo last :=
  ⟨second.depth.trans first.depth, second.finish.trans first.finish⟩

/-- The input ends as before. -/
theorem ended (level : cursor.LevelTo last) (ended : cursor.finish.kind = .endOfInput) :
    last.finish.kind = .endOfInput := level.finish ▸ ended

/-- Passing what is no bracket is level. -/
theorem pass (ended : cursor.finish.kind = .endOfInput)
    (flat : cursor.current.kind.opens = false ∧ cursor.current.kind.closes = false) :
    cursor.LevelTo cursor.advance := by
  refine ⟨?_, advance_finish⟩
  rw [advance_depth ended, depthAfter, flat.1, flat.2]
  rfl

/-- Between an opening and a closing bracket that are passed, what is level stays level. -/
theorem enclose (ended : cursor.finish.kind = .endOfInput)
    (opened : cursor.current.kind.opens = true) (inside : cursor.advance.LevelTo moved)
    (closed : moved.current.kind.opens = false ∧ moved.current.kind.closes = true) :
    cursor.LevelTo moved.advance := by
  have endedInside : moved.finish.kind = .endOfInput :=
    inside.ended (by rw [advance_finish]; exact ended)
  refine ⟨?_, advance_finish.trans (inside.finish.trans advance_finish)⟩
  rw [advance_depth endedInside, inside.depth, advance_depth ended, depthAfter, depthAfter, opened,
    closed.1, closed.2]
  rfl

end LevelTo

end Cursor

/-- A production behind which the depth is what it was in front. -/
def Level {α : Type} (production : Production α) : Prop :=
  ∀ {cursor last : Cursor} {value : α}, cursor.finish.kind = .endOfInput →
    production cursor = .accepted value last → cursor.LevelTo last

/-! ## Combined productions -/

section Combined

variable {α β : Type}

/-- A wanted token that is no bracket is level. -/
theorem expect_level {kind : TokenKind} (fault : GrammarFault)
    (flat : kind.opens = false ∧ kind.closes = false) : Level (expect kind fault) := by
  intro cursor last token ended accepted
  obtain ⟨matched, -, rfl⟩ := expect_accepted.mp accepted
  exact .pass ended (matched ▸ flat)

/-- A loop over items that are level is level. By induction on the tokens ahead. -/
theorem collect_level {continues : Token → Bool} {limit : Nat}
    {item : (cursor : Cursor) → cursor.rest.length < limit → Outcome α}
    (level : ∀ {cursor last value} (within : cursor.rest.length < limit),
      cursor.finish.kind = .endOfInput → continues cursor.current = true →
        item cursor within = .accepted value last → cursor.LevelTo last)
    {cursor last : Cursor} {values : List α} (within : cursor.rest.length < limit)
    (ended : cursor.finish.kind = .endOfInput)
    (accepted : collect continues limit item cursor within = .accepted values last) :
    cursor.LevelTo last := by
  induction size : cursor.rest.length using Nat.strongRecOn generalizing cursor values with
  | ind size inductionHypothesis =>
    unfold collect at accepted
    split at accepted
    · next allowed =>
      cases result : item cursor within with
      | rejected error stopped => simp [result] at accepted
      | accepted value moved =>
        have first := level within ended allowed result
        simp only [result] at accepted
        split at accepted
        · next fewer =>
          cases looped : collect continues limit item moved (Nat.lt_trans fewer within) with
          | rejected error stopped => simp [looped] at accepted
          | accepted others behind =>
            simp only [looped] at accepted
            obtain ⟨-, rfl⟩ := Outcome.accepted.inj accepted
            have rest := inductionHypothesis _ (size ▸ fewer) _ (first.ended ended) looped rfl
            exact first.trans rest
        · obtain ⟨-, rfl⟩ := Outcome.accepted.inj accepted
          exact first
    · obtain ⟨-, rfl⟩ := Outcome.accepted.inj accepted
      exact .refl cursor

/-- A loop between brackets is level, together with the brackets. -/
theorem collectUntil_level {closer : TokenKind} {limit : Nat}
    {item : (cursor : Cursor) → cursor.rest.length < limit → Outcome α} {view : α → β}
    {phrase : Phrase β} {ends : List Reading → Prop} {kinds : List TokenKind}
    (reads : ReadsWithin limit item view phrase (fun _ => true) ends)
    (begins : BeginsWith kinds phrase) (closes : closer.opens = false ∧ closer.closes = true)
    (level : ∀ {cursor last value} (within : cursor.rest.length < limit),
      cursor.finish.kind = .endOfInput → item cursor within = .accepted value last →
        cursor.LevelTo last)
    {cursor last : Cursor} {values : List α} {within : cursor.advance.rest.length < limit}
    (ended : cursor.finish.kind = .endOfInput) (opened : cursor.current.kind.opens = true)
    (accepted : collect (fun token => decide (token.kind ≠ closer)) limit item cursor.advance
      within = .accepted values last) : cursor.LevelTo last.advance := by
  have endedInside : cursor.advance.finish.kind = .endOfInput := by
    rw [Cursor.advance_finish]
    exact ended
  have stopped := collectUntil_stops reads begins endedInside accepted
  have inside :=
    collect_level (fun within ended _ => level within ended) within endedInside accepted
  exact .enclose ended opened inside (stopped ▸ closes)

end Combined

/-! ## Constants and directives -/

/-- A word that spells a value is no bracket. -/
theorem leafValue_flat {span : Span} {word : Reading} {value : Value}
    (spelled : leafValue span word = some value) :
    word.1.opens = false ∧ word.1.closes = false := by
  obtain ⟨kind, spelling⟩ := word
  cases kind with
  | string | blockString | int | float | name => exact ⟨rfl, rfl⟩
  | _ => cases spelled

/-- A field of an object is level, if its value is. -/
theorem objectField_level {cursor last : Cursor} {field : ObjectField}
    {value : (inner : Cursor) → inner.rest.length < cursor.rest.length → Outcome Value}
    (inside : ∀ {inner behind given} (fewer : inner.rest.length < cursor.rest.length),
      inner.finish.kind = .endOfInput → value inner fewer = .accepted given behind →
        inner.LevelTo behind)
    (ended : cursor.finish.kind = .endOfInput)
    (accepted : objectField cursor value = .accepted field last) : cursor.LevelTo last := by
  simp only [objectField, bind_accepted, spanFrom_accepted, pure_accepted] at accepted
  obtain ⟨_, _, naming, _, _, dividing, _, _, valued, _, _, ⟨-, rfl⟩, -, rfl⟩ := accepted
  have named := expect_level _ (by decide) ended naming
  have divided := named.trans (expect_level _ (by decide) (named.ended ended) dividing)
  split at valued
  · next fewer => exact divided.trans (inside fewer (divided.ended ended) valued)
  · exact (reject_accepted.mp valued).elim

/-- A constant is level, if the constants inside it are. -/
theorem constant_levelWithin {cursor last : Cursor} {value : Value}
    (inside : ∀ {inner behind value}, inner.rest.length < cursor.rest.length →
      inner.finish.kind = .endOfInput → constant inner = .accepted value behind →
        inner.LevelTo behind)
    (ended : cursor.finish.kind = .endOfInput)
    (accepted : constant cursor = .accepted value last) : cursor.LevelTo last := by
  have sees : cursor.Sees (cursor.rest.map Token.reading) := ⟨rfl, ended⟩
  cases words : cursor.rest.map Token.reading with
  | nil =>
    rw [words] at sees
    exact (constant_nil sees accepted).elim
  | cons word others =>
    rw [words] at sees
    obtain ⟨kind, spelling⟩ := word
    have same : cursor.current.kind = kind := sees.kind
    by_cases list : kind = .leftBracket
    · subst list
      obtain ⟨values, before, looped, -, rfl⟩ := (constant_list sees sees.fewer).mp accepted
      exact collectUntil_level (constant_within _) constant_begins (by decide)
        (fun within => inside within) ended (same ▸ rfl) looped
    · by_cases object : kind = .leftBrace
      · subst object
        obtain ⟨fields, before, looped, -, rfl⟩ := (constant_object sees sees.fewer).mp accepted
        exact collectUntil_level (objectField_within (constant_within _)) objectField_begins
          (by decide)
          (fun within => objectField_level (fun fewer => inside (Nat.lt_trans fewer within)))
          ended (same ▸ rfl) looped
      · obtain ⟨spelled, rfl⟩ := (constant_leaf sees list object).mp accepted
        exact .pass ended (same ▸ leafValue_flat spelled)

/-- A constant is level. By induction on the tokens ahead. -/
theorem constant_level : Level constant := by
  intro cursor last value ended accepted
  induction size : cursor.rest.length using Nat.strongRecOn generalizing cursor last value with
  | ind size inductionHypothesis =>
    refine constant_levelWithin ?_ ended accepted
    intro inner behind value fewer ended accepted
    exact inductionHypothesis _ (size ▸ fewer) ended accepted rfl

/-- An argument is level. -/
theorem argument_level : Level argument := by
  intro cursor last value ended accepted
  simp only [argument, bind_accepted, spanFrom_accepted, pure_accepted] at accepted
  obtain ⟨_, _, naming, _, _, dividing, _, _, valuing, _, _, ⟨-, rfl⟩, -, rfl⟩ := accepted
  have named := expect_level _ (by decide) ended naming
  have divided := named.trans (expect_level _ (by decide) (named.ended ended) dividing)
  exact divided.trans (constant_level (divided.ended ended) valuing)

/-- Arguments are level, together with their parentheses. -/
theorem arguments_level : Level arguments := by
  intro cursor last values ended accepted
  simp only [arguments, bind_accepted, accept_accepted] at accepted
  obtain ⟨_, moved, ⟨opened, rfl, rfl⟩ | ⟨-, rfl, rfl⟩, behind⟩ := accepted
  · simp only [↓reduceIte, manyUntil, bind_accepted, advance_accepted, pure_accepted] at behind
    obtain ⟨given, _, ⟨_, before, looped, _, _, ⟨-, rfl⟩, -, rfl⟩, checked⟩ := behind
    have same : before.advance = last := by
      split at checked
      · exact (reject_accepted.mp checked).elim
      · exact (pure_accepted.mp checked).2
    subst same
    have within : ReadsWithin (cursor.advance.rest.length + 1) (fun inner _ => argument inner)
        Argument.withoutSpans ArgumentPhrase (fun _ => true) (NextNot []) :=
      ⟨fun _ sees _ => argument_reads.sound sees trivial, fun _ => argument_reads.complete⟩
    exact collectUntil_level within argument_begins (by decide) (fun _ => argument_level) ended
      (opened ▸ rfl) looped
  · obtain ⟨-, rfl⟩ := pure_accepted.mp behind
    exact .refl _

/-- A directive is level. It is asked for only at its sign. -/
theorem directive_level {cursor last : Cursor} {value : Directive}
    (ended : cursor.finish.kind = .endOfInput) (sign : cursor.current.kind = TokenKind.at)
    (accepted : directive cursor = .accepted value last) : cursor.LevelTo last := by
  simp only [directive, bind_accepted, advance_accepted, spanFrom_accepted,
    pure_accepted] at accepted
  obtain ⟨_, _, ⟨-, rfl⟩, _, _, naming, _, _, listing, _, _, ⟨-, rfl⟩, -, rfl⟩ := accepted
  have signed := Cursor.LevelTo.pass ended (sign ▸ (by decide))
  have named := signed.trans (expect_level _ (by decide) (signed.ended ended) naming)
  exact named.trans (arguments_level (named.ended ended) listing)

/-- Directives are level. -/
theorem directives_level : Level directives := by
  intro cursor last values ended accepted
  exact collect_level
    (fun _ ended sign read => directive_level ended (of_decide_eq_true sign) read) _ ended accepted

/-! ## Values of enumerations -/

/-- A description is level. -/
theorem description_level : Level description := by
  intro cursor last value ended accepted
  simp only [description, bind_accepted, peek_accepted] at accepted
  obtain ⟨_, _, ⟨rfl, rfl⟩, given⟩ := accepted
  split at given
  · next quoted =>
    simp only [bind_accepted, advance_accepted, pure_accepted] at given
    obtain ⟨_, _, ⟨-, rfl⟩, -, rfl⟩ := given
    refine .pass ended ?_
    unfold Token.isString at quoted
    generalize cursor.current.kind = kind at quoted
    cases kind with
    | string | blockString => exact ⟨rfl, rfl⟩
    | _ => cases quoted
  · obtain ⟨-, rfl⟩ := pure_accepted.mp given
    exact .refl _

/-- A value of an enumeration is level. -/
theorem enumMember_level : Level enumMember := by
  intro cursor last value ended accepted
  simp only [enumMember, bind_accepted, peek_accepted] at accepted
  obtain ⟨_, _, ⟨-, rfl⟩, _, _, describing, _, _, naming, rest⟩ := accepted
  have described := description_level ended describing
  have named := described.trans (expect_level _ (by decide) (described.ended ended) naming)
  split at rest
  · cases rest
  · simp only [bind_accepted, spanFrom_accepted, pure_accepted] at rest
    obtain ⟨_, _, applying, _, _, ⟨-, rfl⟩, -, rfl⟩ := rest
    exact named.trans (directives_level (named.ended ended) applying)

end SchemaForge

import SchemaForge.Proofs.ParallelGrammar

/-!
# Recovery between definitions

A document is read definition by definition, and behind an error the reading goes on at the
next keyword outside of brackets. Each round passes at least one token: an accepted definition
is not empty, and a refused one is refused no earlier than where it begins. So the guard of the
loop never ends it, and a document is what its definitions and its errors are, in order.

Two documents are compared round by round. Readings that are together when an error is noticed
recover at corresponding places. Readings that part do so in front of a definition, where the
second one has recovered already.
-/

namespace SchemaForge

/-! ## Recovery moves forward -/

namespace Cursor

/-- Looking for a definition does not go back. -/
theorem seekDefinition_length (cursor : Cursor) :
    cursor.seekDefinition.rest.length ≤ cursor.rest.length := by
  fun_induction seekDefinition cursor with
  | case1 => exact Nat.le_refl _
  | case2 => exact Nat.le_refl _
  | case3 cursor _ _ _ _ fewer inductionHypothesis =>
    exact Nat.le_trans inductionHypothesis (Nat.le_of_lt fewer)

/-- The search ends at the end of input and in front of a definition. -/
theorem seekDefinition_here {cursor : Cursor}
    (here : cursor.rest = [] ∨ cursor.depth = 0 ∧ cursor.current.beginsDefinition = true) :
    cursor.seekDefinition = cursor := by
  rw [seekDefinition]
  split
  · rfl
  · next token tokens ahead =>
    obtain ⟨flat, begins⟩ := here.resolve_left (by simp [ahead])
    rw [current, ahead] at begins
    exact if_pos (by simpa [flat] using begins)

/-- The search goes on everywhere else. -/
theorem seekDefinition_further {cursor : Cursor} (some : cursor.rest ≠ [])
    (elsewhere : ¬ (cursor.depth = 0 ∧ cursor.current.beginsDefinition = true)) :
    cursor.seekDefinition = cursor.advance.seekDefinition := by
  rw [seekDefinition]
  split
  · next none => exact absurd none some
  · next token tokens ahead =>
    rw [current, ahead] at elsewhere
    exact if_neg (by simpa using elsewhere)

/-- Recovery passes at least one token, if there is one. -/
theorem recover_length (cursor : Cursor) :
    cursor.recover.rest.length ≤ cursor.rest.length - 1 := by
  have passed : cursor.advance.rest.length = cursor.rest.length - 1 := by
    rw [advance_rest, List.length_tail]
  exact passed ▸ seekDefinition_length cursor.advance

end Cursor

namespace Comparison

/-- One token reads as itself. -/
theorem reading_of_same {token other : Token} (same : token = other) :
    token.reading = other.reading := congrArg Token.reading same

/-- Readings that never part do so only at the end. -/
theorem rest_of_never {cursor : Cursor} (never : False) : cursor.rest = [] := never.elim

/-- Readings that never part do so only outside of brackets. -/
theorem depth_of_never {cursor : Cursor} (never : False) : cursor.depth = 0 := never.elim

end Comparison

/-- A reading beside itself, with a bound on the tokens ahead. -/
def Comparison.bounded (limit : Nat) : Comparison where
  cursors left right :=
    left = right ∧ left.rest.length ≤ limit ∧ left.finish.kind = .endOfInput
  tokens := Eq
  parted _ := False
  excess := 0
  reading := reading_of_same
  finish := by
    rintro left _ ⟨rfl, -, ended⟩
    exact ⟨ended, ended⟩
  length near := congrArg (fun cursor => cursor.rest.length) near.1.symm
  ahead near := .inl (congrArg Cursor.current near.1)
  advance := by
    rintro left _ ⟨rfl, bound, ended⟩ -
    refine ⟨rfl, ?_, by rw [Cursor.advance_finish]; exact ended⟩
    rw [Cursor.advance_rest, List.length_tail]
    omega
  parted_rest := rest_of_never
  parted_depth := depth_of_never
  extension _ _ := ⟨id, fun _ => id⟩

/-- A definition that is refused is refused no earlier than where it begins. -/
theorem definition_stops {cursor stopped : Cursor} {error : GrammarError}
    (ended : cursor.finish.kind = .endOfInput)
    (rejected : Grammar.definition cursor = .rejected error stopped) :
    stopped.rest.length ≤ cursor.rest.length := by
  have alike := (Comparison.bounded cursor.rest.length).definition_alike
    ⟨rfl, Nat.le_refl _, ended⟩
  rw [rejected] at alike
  cases alike with
  | rejected _ near _ => exact near.2.1
  | ended parted _ => exact parted.elim

/-- Recovery from a definition that is refused passes at least one token. -/
theorem definition_recovers {cursor stopped : Cursor} {error : GrammarError}
    (ended : cursor.finish.kind = .endOfInput) (some : cursor.rest ≠ [])
    (rejected : Grammar.definition cursor = .rejected error stopped) :
    stopped.recover.rest.length < cursor.rest.length := by
  have bound := definition_stops ended rejected
  have passed := stopped.recover_length
  have positive := List.length_pos_iff.mpr some
  omega

/-- A definition that is accepted passes at least one token. -/
theorem definition_passes {cursor moved : Cursor} {value : Definition}
    (ended : cursor.finish.kind = .endOfInput)
    (accepted : Grammar.definition cursor = .accepted value moved) :
    moved.rest.length < cursor.rest.length := by
  have sees : cursor.Sees (cursor.rest.map Token.reading) := ⟨rfl, ended⟩
  obtain ⟨words, rest, same, seen, derived⟩ := definition_reads.sound sees trivial accepted
  have positive := derived.length_pos
  rw [seen.length, sees.length, same, List.length_append]
  omega

/-! ## A document, definition by definition -/

namespace DocumentReading

variable {cursor : Cursor}

/-- Nothing is found where nothing is ahead. -/
theorem ofCursor_finished (none : cursor.rest = []) : ofCursor cursor = empty := by
  rw [ofCursor]
  simp [none]

/-- Behind a definition the reading goes on. -/
theorem ofCursor_accepted {moved : Cursor} {value : Definition}
    (ended : cursor.finish.kind = .endOfInput)
    (accepted : Grammar.definition cursor = .accepted value moved) :
    ofCursor cursor = (ofCursor moved).withDefinition value := by
  have fewer := definition_passes ended accepted
  rw [ofCursor]
  split
  · next none => simp [none] at fewer
  · rw [accepted]
    exact if_pos fewer

/-- Behind an error the reading goes on where it recovers. -/
theorem ofCursor_rejected {stopped : Cursor} {error : GrammarError}
    (ended : cursor.finish.kind = .endOfInput) (some : cursor.rest ≠ [])
    (rejected : Grammar.definition cursor = .rejected error stopped) :
    ofCursor cursor = (ofCursor stopped.recover).withError error := by
  have fewer := definition_recovers ended some rejected
  rw [ofCursor]
  split
  · next none => exact absurd none some
  · rw [rejected]
    exact if_pos fewer

end DocumentReading

/-! ## Documents side by side -/

/-- The same error at another token. -/
def GrammarError.moved (move : Token → Token) (error : GrammarError) : GrammarError :=
  { error with found := move error.found }

/-- What an error says without its place. -/
def GrammarError.unplaced (error : GrammarError) : GrammarFault × Reading :=
  (error.fault, error.found.reading)

/-- Where the first reading has a token ahead the second one has. -/
theorem Comparison.rest_ne_nil {side : Comparison} {left right : Cursor}
    (near : side.cursors left right) (some : left.rest ≠ []) : right.rest ≠ [] := by
  have positive := List.length_pos_iff.mpr some
  have length := side.length near
  exact List.ne_nil_of_length_pos (by omega)

/-- Whether a token begins a definition does not depend on its place. -/
theorem Token.beginsDefinition_eq {token other : Token} (same : token.reading = other.reading) :
    token.beginsDefinition = other.beginsDefinition := by
  obtain ⟨kind, value⟩ := Prod.mk.inj same
  unfold beginsDefinition isNameIn isName
  rw [kind, value]

/-- A comparison with the same brackets open, in which the second reading ends where the first
one does unless they part. -/
structure Comparison.Steady (side : Comparison) : Prop where
  /-- The same number of brackets is open. -/
  depth : ∀ {left right}, side.cursors left right → right.depth = left.depth
  /-- Readings that do not part end together. -/
  stops : ∀ {left right}, side.cursors left right → side.tokens left.current right.current →
    left.rest = [] → right.rest = []

/-- A steady comparison that carries each token over by a function. -/
structure Comparison.Carries (side : Comparison) (move : Token → Token) : Prop
    extends side.Steady where
  /-- A token corresponds to the one it is carried to. -/
  moves : ∀ {token other}, side.tokens token other → other = move token

namespace Comparison

variable {side : Comparison} {move : Token → Token} {left right : Cursor}

/-- The next definition is found at corresponding places. Where the readings part the second
one is already in front of one. By induction on the tokens ahead. -/
theorem Steady.seekDefinition (steady : side.Steady) (near : side.cursors left right) :
    side.cursors left.seekDefinition right.seekDefinition := by
  induction size : left.rest.length using Nat.strongRecOn generalizing left right with
  | ind size inductionHypothesis =>
    by_cases none : left.rest = []
    · rw [Cursor.seekDefinition_here (.inl none)]
      obtain together | ⟨parted, begins⟩ := side.ahead near
      · rw [Cursor.seekDefinition_here (.inl (steady.stops near together none))]
        exact near
      · have flat := (steady.depth near).trans (side.parted_depth parted)
        rw [Cursor.seekDefinition_here (.inr ⟨flat, begins⟩)]
        exact near
    have together := (side.ahead near).resolve_right (fun parts => none (side.parted_rest parts.1))
    have agrees : (right.depth = 0 ∧ right.current.beginsDefinition = true) ↔
        (left.depth = 0 ∧ left.current.beginsDefinition = true) := by
      rw [steady.depth near, Token.beginsDefinition_eq (side.reading together)]
    by_cases here : left.depth = 0 ∧ left.current.beginsDefinition = true
    · rw [Cursor.seekDefinition_here (.inr here),
        Cursor.seekDefinition_here (.inr (agrees.mpr here))]
      exact near
    · have elsewhere := mt agrees.mp here
      have fewer : left.advance.rest.length < left.rest.length := by
        rw [Cursor.advance_rest, List.length_tail]
        exact Nat.sub_lt (List.length_pos_iff.mpr none) Nat.one_pos
      rw [Cursor.seekDefinition_further none here,
        Cursor.seekDefinition_further (side.rest_ne_nil near none) elsewhere]
      exact inductionHypothesis _ (size ▸ fewer) (side.advance near together) rfl

/-- Readings that are together recover at corresponding places. -/
theorem Steady.recover (steady : side.Steady) (near : side.cursors left right)
    (together : side.tokens left.current right.current) :
    side.cursors left.recover right.recover :=
  steady.seekDefinition (side.advance near together)

open DocumentReading

/-- The errors of the first reading are those of the second one up to where the first one
ends, if none of them is found where the readings part. By induction on the tokens ahead,
definition by definition. -/
theorem Carries.errors (carries : side.Carries move) (near : side.cursors left right)
    (inside : ∀ error ∈ (ofCursor left).errors, ∀ cursor, side.parted cursor →
      error.found ≠ cursor.current) :
    ∃ done last, side.cursors done last ∧ done.rest = [] ∧
      (ofCursor right).errors =
        (ofCursor left).errors.map (GrammarError.moved move) ++ (ofCursor last).errors := by
  induction size : left.rest.length using Nat.strongRecOn generalizing left right with
  | ind size inductionHypothesis =>
    obtain ⟨ended, endedRight⟩ := side.finish near
    by_cases none : left.rest = []
    · refine ⟨left, right, near, none, ?_⟩
      rw [ofCursor_finished none]
      rfl
    have alike := side.definition_alike near
    generalize read : Grammar.definition left = outcome at alike
    generalize readRight : Grammar.definition right = other at alike
    cases alike with
    | accepted _ behind =>
      have fewer := definition_passes ended read
      rw [ofCursor_accepted ended read] at inside ⊢
      rw [ofCursor_accepted endedRight readRight]
      exact inductionHypothesis _ (size ▸ fewer) behind inside rfl
    | @rejected fault token other stopped behind found stops together =>
      have fewer := definition_recovers ended none read
      rw [ofCursor_rejected ended none read] at inside ⊢
      rw [ofCursor_rejected endedRight (side.rest_ne_nil near none) readRight]
      obtain ⟨done, last, atEnd, finished, same⟩ :=
        inductionHypothesis _ (size ▸ fewer) (carries.toSteady.recover stops together)
          (fun error member => inside error (.tail _ member)) rfl
      refine ⟨done, last, atEnd, finished, ?_⟩
      obtain rfl := carries.moves found
      exact congrArg (List.cons _) same
    | @ended error stopped _ parted found =>
      -- Here the second reading may accept what the first one has refused at its end.
      rw [ofCursor_rejected ended none read] at inside
      exact absurd found (inside error (.head _) _ parted)

/-- Readings that never part find the same definitions up to spans and the same errors up to
places. By induction on the tokens ahead, definition by definition. -/
theorem Steady.document (steady : side.Steady) (never : ∀ cursor, ¬ side.parted cursor)
    (near : side.cursors left right) :
    Same (List.map Definition.withoutSpans) (ofCursor left).definitions
        (ofCursor right).definitions ∧
      Same (List.map GrammarError.unplaced) (ofCursor left).errors (ofCursor right).errors := by
  induction size : left.rest.length using Nat.strongRecOn generalizing left right with
  | ind size inductionHypothesis =>
    obtain ⟨ended, endedRight⟩ := side.finish near
    by_cases none : left.rest = []
    · have together := (side.ahead near).resolve_right (fun parts => never _ parts.1)
      rw [ofCursor_finished none, ofCursor_finished (steady.stops near together none)]
      exact ⟨rfl, rfl⟩
    have alike := side.definition_alike near
    generalize read : Grammar.definition left = outcome at alike
    generalize readRight : Grammar.definition right = other at alike
    cases alike with
    | accepted agree behind =>
      have fewer := definition_passes ended read
      obtain ⟨definitions, errors⟩ := inductionHypothesis _ (size ▸ fewer) behind rfl
      rw [ofCursor_accepted ended read, ofCursor_accepted endedRight readRight]
      refine ⟨?_, errors⟩
      unfold Same at agree definitions ⊢
      simp only [DocumentReading.withDefinition, List.map_cons, agree, definitions]
    | @rejected fault token other stopped behind found stops together =>
      have fewer := definition_recovers ended none read
      obtain ⟨definitions, errors⟩ :=
        inductionHypothesis _ (size ▸ fewer) (steady.recover stops together) rfl
      rw [ofCursor_rejected ended none read,
        ofCursor_rejected endedRight (side.rest_ne_nil near none) readRight]
      refine ⟨definitions, ?_⟩
      unfold Same at errors ⊢
      simp only [DocumentReading.withError, GrammarError.unplaced, List.map_cons,
        side.reading found, errors]
    | ended parted _ => exact (never _ parted).elim

end Comparison

end SchemaForge

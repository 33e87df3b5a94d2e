import SchemaForge.Proofs.ErrorPlaces

/-!
# Where reading goes on behind an error

A document is read in attempts, one for each definition. Behind a definition that is accepted
the next attempt begins at once. Behind an error it begins at the next keyword of a definition
that stands outside of brackets.

The search for that keyword does not begin at the token the error is about. Recovery first passes
the token before which the reading has stopped, whatever it is. So if that very token is a keyword
outside of brackets, its definition is not attempted; any other keyword is found. For an extension
the token in question is the one behind the keyword and the name after it.
-/

namespace SchemaForge

/-! ## Keywords outside of brackets -/

namespace Input

variable {input : Input} {place start : Nat}

/-- A definition can begin at a place: a keyword stands there, outside of brackets. -/
def opensDefinition (input : Input) (place : Nat) : Bool :=
  (input.token place).beginsDefinition && decide (input.depth place = 0)

/-- The first place from a given one on where a definition can begin. -/
def nextDefinition? (input : Input) (start : Nat) : Option Nat :=
  (List.range input.words.length).find?
    (fun place => decide (start ≤ place) && input.opensDefinition place)

/-- A definition begins with a word. -/
theorem place_lt_of_opensDefinition (opens : input.opensDefinition place = true) :
    place < input.words.length :=
  place_lt (Comparison.kind_of_beginsDefinition (Bool.and_eq_true_iff.mp opens).1) (by decide)

/-- Where a definition can begin, it is the next one. -/
theorem nextDefinition?_here (opens : input.opensDefinition place = true) :
    input.nextDefinition? place = some place := by
  rw [nextDefinition?, List.find?_range_eq_some]
  refine ⟨by simp [opens], List.mem_range.mpr (place_lt_of_opensDefinition opens), ?_⟩
  intro other earlier
  simp [Nat.not_le.mpr earlier]

/-- Where none can begin, the next one is found from the next place on. -/
theorem nextDefinition?_further (closed : input.opensDefinition place = false) :
    input.nextDefinition? place = input.nextDefinition? (place + 1) := by
  have same : (fun other => decide (place ≤ other) && input.opensDefinition other) =
      (fun other => decide (place + 1 ≤ other) && input.opensDefinition other) := by
    funext other
    by_cases here : other = place
    · rw [here, closed, Bool.and_false, Bool.and_false]
    · rw [show decide (place ≤ other) = decide (place + 1 ≤ other) from
        decide_eq_decide.mpr (by omega)]
  rw [nextDefinition?, same, nextDefinition?]

/-- Behind the last word there is none. -/
theorem nextDefinition?_finished (finished : input.words.length ≤ place) :
    input.nextDefinition? place = none := by
  rw [nextDefinition?, List.find?_range_eq_none]
  intro other within
  simp [Nat.not_le.mpr (Nat.lt_of_lt_of_le within finished)]

/-- The next one is not in front of where the search begins. -/
theorem le_of_nextDefinition? {found : Nat} (next : input.nextDefinition? start = some found) :
    start ≤ found := by
  have holds := List.find?_some next
  exact of_decide_eq_true (Bool.and_eq_true_iff.mp holds).1

/-- The search misses nothing by beginning one place later, exactly if nothing begins there. -/
theorem nextDefinition?_succ_iff :
    input.nextDefinition? (place + 1) = input.nextDefinition? place ↔
      input.opensDefinition place = false := by
  constructor
  · intro same
    cases opens : input.opensDefinition place with
    | false => rfl
    | true =>
      have later := le_of_nextDefinition? (same.trans (nextDefinition?_here opens))
      omega
  · exact fun closed => (nextDefinition?_further closed).symm

/-- A place that is a word of the input, and none behind the last one. -/
def word? (input : Input) (place : Nat) : Option Nat :=
  if place < input.words.length then some place else none

end Input

namespace Cursor

variable {input : Input} {cursor : Cursor} {place : Nat}

/-- The search comes to the next place where a definition can begin, or to the end. By induction
on the tokens ahead. -/
theorem At.seekDefinition (stands : cursor.At input place) :
    ∃ later, cursor.seekDefinition.At input later ∧
      input.word? later = input.nextDefinition? place := by
  induction size : cursor.rest.length using Nat.strongRecOn generalizing cursor place with
  | ind size inductionHypothesis =>
    obtain finished | within := Nat.eq_or_lt_of_le stands.within
    · have none : cursor.rest = [] := by rw [stands.rest, finished, List.drop_length]
      rw [seekDefinition_here (.inl none)]
      refine ⟨place, stands, ?_⟩
      rw [Input.nextDefinition?_finished (Nat.le_of_eq finished.symm), Input.word?,
        if_neg (Nat.not_lt.mpr (Nat.le_of_eq finished.symm))]
    have length := stands.length
    have some : cursor.rest ≠ [] := List.ne_nil_of_length_pos (by omega)
    have opensIff : input.opensDefinition place = true ↔
        cursor.depth = 0 ∧ cursor.current.beginsDefinition = true := by
      rw [stands.depth, stands.current, Input.opensDefinition, Bool.and_eq_true,
        decide_eq_true_eq, and_comm]
    by_cases here : cursor.depth = 0 ∧ cursor.current.beginsDefinition = true
    · rw [seekDefinition_here (.inr here)]
      refine ⟨place, stands, ?_⟩
      rw [Input.nextDefinition?_here (opensIff.mpr here), Input.word?, if_pos within]
    · have moved := stands.pass within
      have fewer : cursor.advance.rest.length < cursor.rest.length := by
        rw [moved.length, length]
        omega
      obtain ⟨later, found, next⟩ := inductionHypothesis _ (size ▸ fewer) moved rfl
      rw [seekDefinition_further some here]
      refine ⟨later, found, ?_⟩
      rw [next, Input.nextDefinition?_further (Bool.eq_false_iff.mpr (mt opensIff.mp here))]

/-- Recovery comes to the next place behind the token ahead where a definition can begin, or to
the end. -/
theorem At.recover (stands : cursor.At input place) :
    ∃ later, cursor.recover.At input later ∧
      input.word? later = input.nextDefinition? (place + 1) := by
  obtain finished | within := Nat.eq_or_lt_of_le stands.within
  · obtain ⟨later, found, next⟩ := (stands.stay finished).seekDefinition
    have last := Nat.le_of_eq finished.symm
    refine ⟨later, found, next.trans ?_⟩
    rw [Input.nextDefinition?_finished last,
      Input.nextDefinition?_finished (Nat.le_succ_of_le last)]
  · exact (stands.pass within).seekDefinition

end Cursor

/-- Where the search for the next definition is meant to begin: at the token an error is about;
for an extension behind its keyword, and behind a name that comes next. -/
def Input.searchStart (input : Input) (error : GrammarError) (place : Nat) : Nat :=
  if error.fault = .extensionUnsupported then
    if (input.token (place + 1)).kind = .name then place + 2 else place + 1
  else place

/-- Recovery comes to the next place where a definition can begin, behind where the search is
meant to begin. -/
theorem Noticed.recovers {input : Input} {start : Nat} {error : GrammarError} {stopped : Cursor}
    (noticed : Noticed input start error stopped) :
    ∃ place later, start ≤ place ∧ place ≤ input.words.length ∧
      error.found = input.token place ∧ stopped.recover.At input later ∧
      input.word? later = input.nextDefinition? (input.searchStart error place + 1) := by
  cases noticed with
  | @here fault _ place order proper stands =>
    obtain ⟨later, found, next⟩ := stands.recover
    refine ⟨place, later, order, stands.within, rfl, found, ?_⟩
    rw [next, Input.searchStart, if_neg proper]
  | @enclosed fault _ place order proper stands inside =>
    obtain ⟨later, found, next⟩ := stands.recover
    refine ⟨place, later, order, Nat.le_of_succ_le stands.within, rfl, found, ?_⟩
    -- The brace around the value is open, so no definition begins behind its name either.
    have closed : input.opensDefinition (place + 1) = false := by
      have bracketed : input.depth (place + 1) ≠ 0 := stands.depth ▸ Nat.ne_of_gt inside
      simp [Input.opensDefinition, bracketed]
    rw [next, Input.searchStart, if_neg proper, Input.nextDefinition?_further closed]
  | @extension _ place order stands bare =>
    obtain ⟨later, found, next⟩ := stands.recover
    refine ⟨place, later, order, Nat.le_of_succ_le stands.within, rfl, found, ?_⟩
    rw [next, Input.searchStart, if_pos rfl, if_neg bare]
  | @extendedKind _ place order stands named =>
    obtain ⟨later, found, next⟩ := stands.recover
    have within := stands.within
    refine ⟨place, later, order, by omega, rfl, found, ?_⟩
    rw [next, Input.searchStart, if_pos rfl, if_pos named]

/-! ## Attempts -/

/-- An attempt at a definition: the place where it begins, and what comes of it. -/
structure Attempt where
  /-- The place. -/
  start : Nat
  /-- The definition, or why there is none. -/
  outcome : Except GrammarError Definition

namespace Attempt

/-- The definition that is accepted, if one is. -/
def definition? (attempt : Attempt) : Option Definition :=
  match attempt.outcome with
  | .ok value => some value
  | .error _ => none

/-- The error that is found, if one is. -/
def error? (attempt : Attempt) : Option GrammarError :=
  match attempt.outcome with
  | .ok _ => none
  | .error error => some error

end Attempt

/-- The attempts that are made from a cursor on, which stands before a place of the input. There
is one more for as long as the end of input is not reached: nothing else ends the reading. -/
inductive Attempts (input : Input) : Cursor → Nat → List Attempt → Prop where
  | finished {cursor : Cursor} (stands : cursor.At input input.words.length) :
      Attempts input cursor input.words.length []
  | accepted {cursor moved : Cursor} {place later : Nat} {value : Definition}
      {others : List Attempt} (stands : cursor.At input place)
      (within : place < input.words.length)
      (read : Grammar.definition cursor = .accepted value moved)
      (further : Attempts input moved later others) :
      Attempts input cursor place (⟨place, .ok value⟩ :: others)
  | rejected {cursor stopped : Cursor} {place later : Nat} {error : GrammarError}
      {others : List Attempt} (stands : cursor.At input place)
      (within : place < input.words.length)
      (read : Grammar.definition cursor = .rejected error stopped)
      (further : Attempts input stopped.recover later others) :
      Attempts input cursor place (⟨place, .error error⟩ :: others)

namespace Attempts

variable {input : Input} {cursor : Cursor} {attempts : List Attempt} {place : Nat}

/-- The cursor stands before the place. -/
theorem stands (run : Attempts input cursor place attempts) : cursor.At input place := by
  cases run with
  | finished stands => exact stands
  | accepted stands => exact stands
  | rejected stands => exact stands

/-- The first attempt begins where the reading does. -/
theorem head (run : Attempts input cursor place attempts) :
    attempts.head?.map Attempt.start = input.word? place := by
  cases run with
  | finished => exact (if_neg (Nat.lt_irrefl _)).symm
  | accepted _ within => exact (if_pos within).symm
  | rejected _ within => exact (if_pos within).symm

/-- Where an attempt is refused, the error is about a token that is not in front of it, and the
next attempt begins at the next place where a definition can begin. -/
theorem next {stopped : Cursor} {error : GrammarError} {later : Nat} {others : List Attempt}
    (stands : cursor.At input place)
    (read : Grammar.definition cursor = .rejected error stopped)
    (further : Attempts input stopped.recover later others) :
    ∃ found, place ≤ found ∧ found ≤ input.words.length ∧ error.found = input.token found ∧
      others.head?.map Attempt.start =
        input.nextDefinition? (input.searchStart error found + 1) := by
  have tracked := definition_tracks.tracked stands
  rw [read] at tracked
  cases tracked with
  | rejected noticed =>
    obtain ⟨found, reached, order, within, same, recovered, resumed⟩ := noticed.recovers
    refine ⟨found, order, within, same, ?_⟩
    rw [further.head, further.stands.unique recovered, resumed]

/-- Every attempt that is refused is followed by the attempt at the next place where a definition
can begin. By induction on the attempts. -/
theorem resumes (run : Attempts input cursor place attempts) {done others : List Attempt}
    {attempt : Attempt} {error : GrammarError} (split : attempts = done ++ attempt :: others)
    (refused : attempt.outcome = .error error) :
    ∃ found, attempt.start ≤ found ∧ found ≤ input.words.length ∧
      error.found = input.token found ∧
      others.head?.map Attempt.start =
        input.nextDefinition? (input.searchStart error found + 1) := by
  induction run generalizing done with
  | finished => simp at split
  | accepted stands within read further inductionHypothesis =>
    cases done with
    | nil =>
      obtain ⟨rfl, -⟩ := List.cons.inj split
      cases refused
    | cons first done => exact inductionHypothesis (List.cons.inj split).2
  | rejected stands within read further inductionHypothesis =>
    cases done with
    | nil =>
      obtain ⟨rfl, rfl⟩ := List.cons.inj split
      cases refused
      exact next stands read further
    | cons first done => exact inductionHypothesis (List.cons.inj split).2

end Attempts

/-- Attempts are made up to the end of input, and what is found in a document is what they find.
By induction on the tokens ahead. -/
theorem exists_attempts {input : Input} {cursor : Cursor} {place : Nat}
    (stands : cursor.At input place) :
    ∃ attempts, Attempts input cursor place attempts ∧
      DocumentReading.ofCursor cursor =
        ⟨attempts.filterMap Attempt.definition?, attempts.filterMap Attempt.error?⟩ := by
  induction size : cursor.rest.length using Nat.strongRecOn generalizing cursor place with
  | ind size inductionHypothesis =>
    have length := stands.length
    obtain rfl | within := Nat.eq_or_lt_of_le stands.within
    · have none : cursor.rest = [] := List.eq_nil_of_length_eq_zero (by omega)
      exact ⟨[], .finished stands, DocumentReading.ofCursor_finished none⟩
    have some : cursor.rest ≠ [] := List.ne_nil_of_length_pos (by omega)
    have tracked := definition_tracks.tracked stands
    generalize read : Grammar.definition cursor = outcome at tracked
    cases tracked with
    | accepted order behind =>
      have fewer := definition_passes stands.ended read
      obtain ⟨others, run, same⟩ := inductionHypothesis _ (size ▸ fewer) behind rfl
      refine ⟨_, .accepted stands within read run, ?_⟩
      rw [DocumentReading.ofCursor_accepted stands.ended read, same]
      rfl
    | rejected noticed =>
      have fewer := definition_recovers stands.ended some read
      obtain ⟨_, _, _, _, _, recovered, _⟩ := noticed.recovers
      obtain ⟨others, run, same⟩ := inductionHypothesis _ (size ▸ fewer) recovered rfl
      refine ⟨_, .rejected stands within read run, ?_⟩
      rw [DocumentReading.ofCursor_rejected stands.ended some read, same]
      rfl

/-- A reading begins at the first place, with comments left out. -/
theorem Cursor.ofTokens_at {input : Input} {body : List Token}
    (given : meaningful body = input.words) : (Cursor.ofTokens body input.finish).At input 0 :=
  ⟨given, Nat.zero_le _, rfl, rfl⟩

/-- Where reading goes on behind an error. A list of tokens, without its comments, is read in
attempts up to its end, and its definitions and errors are those of the attempts. For each attempt
that is refused there is the place of the token that the error is about. The next attempt begins
at the first place behind where the search is meant to begin at which a keyword stands outside of
brackets, and there is no other attempt if there is no such place. It is the first one from where
the search is meant to begin exactly if no such keyword stands right there. -/
theorem recovery_resumes (input : Input) (body : List Token)
    (given : meaningful body = input.words) :
    ∃ attempts, Attempts input (.ofTokens body input.finish) 0 attempts ∧
      DocumentReading.ofCursor (.ofTokens body input.finish) =
        ⟨attempts.filterMap Attempt.definition?, attempts.filterMap Attempt.error?⟩ ∧
      ∀ (done others : List Attempt) (attempt : Attempt) (error : GrammarError),
        attempts = done ++ attempt :: others → attempt.outcome = .error error →
        ∃ place, attempt.start ≤ place ∧ place ≤ input.words.length ∧
          error.found = input.token place ∧
          others.head?.map Attempt.start =
            input.nextDefinition? (input.searchStart error place + 1) ∧
          (others.head?.map Attempt.start =
              input.nextDefinition? (input.searchStart error place) ↔
            input.opensDefinition (input.searchStart error place) = false) := by
  obtain ⟨attempts, run, same⟩ := exists_attempts (Cursor.ofTokens_at given)
  refine ⟨attempts, run, same, fun done others attempt error split refused => ?_⟩
  obtain ⟨place, later, within, found, resumed⟩ := run.resumes split refused
  refine ⟨place, later, within, found, resumed, ?_⟩
  rw [resumed]
  exact Input.nextDefinition?_succ_iff

/-- An extension, and an enumeration with a reserved value behind it. -/
def extendedAndReserved : Input where
  words := [⟨.name, "extend", 1, 1, 0, 6⟩, ⟨.name, "type", 1, 8, 7, 11⟩,
    ⟨.name, "A", 1, 13, 12, 13⟩, ⟨.name, "enum", 2, 1, 14, 18⟩, ⟨.name, "B", 2, 6, 19, 20⟩,
    ⟨.leftBrace, "\x7b", 2, 8, 21, 22⟩, ⟨.name, "true", 2, 10, 23, 27⟩,
    ⟨.rightBrace, "\x7d", 2, 15, 28, 29⟩]
  finish := ⟨.endOfInput, "", 2, 16, 29, 29⟩
  ended := rfl

/-- Both are attempted and refused. -/
theorem recovery_resumes_extension :
    ∃ attempts,
      Attempts extendedAndReserved
        (.ofTokens extendedAndReserved.words extendedAndReserved.finish) 0 attempts ∧
      attempts.filterMap Attempt.error? =
        [⟨.extensionUnsupported, extendedAndReserved.token 0⟩,
          ⟨.reservedEnumValue, extendedAndReserved.token 6⟩] := by
  obtain ⟨attempts, run, same, -⟩ :=
    recovery_resumes extendedAndReserved extendedAndReserved.words rfl
  refine ⟨attempts, run, (congrArg DocumentReading.errors same).symm.trans ?_⟩
  decide +kernel

/-- A schema block without a body in front of a definition that is refused on its own. -/
def unopenedBlock : Input where
  words := [⟨.name, "schema", 1, 1, 0, 6⟩, ⟨.name, "type", 1, 8, 7, 11⟩,
    ⟨.name, "A", 1, 13, 12, 13⟩, ⟨.leftBrace, "\x7b", 1, 15, 14, 15⟩,
    ⟨.bang, "!", 1, 17, 16, 17⟩, ⟨.rightBrace, "\x7d", 1, 19, 18, 19⟩]
  finish := ⟨.endOfInput, "", 1, 20, 19, 19⟩
  ended := rfl

/-- The keyword at which the missing body is noticed stands outside of brackets, but its
definition is not attempted. -/
theorem unopenedBlock_passesKeyword :
    tokenize ("schema type A { ! }" : Text) =
      .ok (unopenedBlock.words ++ [unopenedBlock.finish]) ∧
    Attempts unopenedBlock (.ofTokens unopenedBlock.words unopenedBlock.finish) 0
      [⟨0, .error ⟨.expectedSchemaBody, unopenedBlock.token 1⟩⟩] ∧
    unopenedBlock.searchStart ⟨.expectedSchemaBody, unopenedBlock.token 1⟩ 1 = 1 ∧
    unopenedBlock.nextDefinition? 1 = some 1 := by
  have read : Grammar.definition (.ofTokens unopenedBlock.words unopenedBlock.finish) =
      .rejected ⟨.expectedSchemaBody, unopenedBlock.token 1⟩
        ⟨unopenedBlock.words.drop 1, unopenedBlock.finish, unopenedBlock.token 0, 0⟩ := by cbv
  have recovered : (Cursor.recover
      ⟨unopenedBlock.words.drop 1, unopenedBlock.finish, unopenedBlock.token 0, 0⟩).At
        unopenedBlock unopenedBlock.words.length :=
    ⟨by decide +kernel, Nat.le_refl _, by decide +kernel, by decide +kernel⟩
  refine ⟨by cbv, ?_, rfl, by decide +kernel⟩
  exact .rejected ⟨rfl, Nat.zero_le _, rfl, rfl⟩ (by decide) read (.finished recovered)

end SchemaForge

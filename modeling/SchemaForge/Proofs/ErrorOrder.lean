import SchemaForge.Problem
import SchemaForge.Proofs.NodeSpans
import SchemaForge.Proofs.RecoveryPoints

/-!
# Reading ends, and errors come in order

Two kinds of loop make up the reading of a document: the attempts at definitions, and inside a
definition the loops over items. In the definitions of the grammar a loop also ends when an item
passes no token. That never happens: whatever is accepted as an item passes at least one token.
So each loop is ended by the token ahead of it or by an error, and by nothing else.

An error is about a token that is not in front of the attempt it ends, and the next attempt
begins behind that token. So the tokens that errors are about come in the order of the text,
and only the last of them can be the end of input.
-/

namespace SchemaForge

open Production Grammar

/-! ## Loops over items -/

/-- One more value in front of those of an outcome. -/
def Outcome.withFirst {α : Type} (value : α) : Outcome (List α) → Outcome (List α)
  | .accepted values last => .accepted (value :: values) last
  | .rejected error stopped => .rejected error stopped

/-- What comes of a loop over items. It goes on for as long as the next token allows one more item
and none is refused: nothing else ends it. -/
inductive Loop {α : Type} (continues : Token → Bool) (item : Production α) :
    Cursor → Outcome (List α) → Prop where
  | stops {cursor : Cursor} (halts : continues cursor.current = false) :
      Loop continues item cursor (.accepted [] cursor)
  | refused {cursor stopped : Cursor} {error : GrammarError}
      (allows : continues cursor.current = true) (read : item cursor = .rejected error stopped) :
      Loop continues item cursor (.rejected error stopped)
  | goesOn {cursor moved : Cursor} {value : α} {outcome : Outcome (List α)}
      (allows : continues cursor.current = true) (read : item cursor = .accepted value moved)
      (further : Loop continues item moved outcome) :
      Loop continues item cursor (outcome.withFirst value)

section Loops

variable {α β : Type} {input : Input} {continues : Token → Bool} {item : Production α}

/-- What a production accepts leads to a place that is not in front of where it began. -/
structure Keeps (input : Input) (item : Production α) : Prop where
  /-- The place. -/
  place : ∀ {cursor moved place value}, cursor.At input place →
    item cursor = .accepted value moved → ∃ later, place ≤ later ∧ moved.At input later

/-- Items that the next token allows pass at least one token. -/
structure GetsOn (input : Input) (continues : Token → Bool) (item : Production α) : Prop where
  /-- The place behind an item. -/
  place : ∀ {cursor moved place value}, cursor.At input place → continues cursor.current = true →
    item cursor = .accepted value moved → ∃ later, place < later ∧ moved.At input later

/-- A loop of the grammar is the loop over its items. -/
structure RunsFreely (input : Input) (continues : Token → Bool) (item : Production α) : Prop where
  /-- From every place, whatever the limit. -/
  loop : ∀ {cursor place limit} (within : cursor.rest.length < limit), cursor.At input place →
    Loop continues item cursor (collect continues limit (fun inner _ => item inner) cursor within)

/-- A production that keeps to the input does so where it accepts. -/
theorem Tracks.keeps (tracks : Tracks input item) : Keeps input item := by
  refine ⟨fun {cursor moved place value} stands read => ?_⟩
  have tracked := tracks.tracked stands
  rw [read] at tracked
  cases tracked with
  | accepted order behind => exact ⟨_, order, behind⟩

/-- Where items pass tokens, the loop over them is ended by nothing else. By induction on the
tokens ahead. -/
theorem GetsOn.runsFreely (getsOn : GetsOn input continues item) :
    RunsFreely input continues item := by
  refine ⟨fun {cursor place limit} within stands => ?_⟩
  induction size : cursor.rest.length using Nat.strongRecOn generalizing cursor place with
  | ind size inductionHypothesis =>
    unfold collect
    split
    · next allows =>
      cases read : item cursor with
      | rejected error stopped => exact .refused allows read
      | accepted value moved =>
        obtain ⟨later, order, behind⟩ := getsOn.place stands allows read
        have fewer : moved.rest.length < cursor.rest.length := by
          rw [behind.length, stands.length]
          have bound := behind.within
          omega
        have further := inductionHypothesis _ (size ▸ fewer) (Nat.lt_trans fewer within) behind rfl
        simp only [fewer, ↓reduceDIte]
        have whole := Loop.goesOn allows read further
        generalize collect continues limit _ moved _ = outcome at whole
        cases outcome <;> exact whole
    · next halts => exact .stops (by simpa using halts)

/-- An item that is read as a phrase passes the words of the phrase. -/
theorem Keeps.getsOn {view : α → β} {phrase : Phrase β} {starts ends : List Reading → Prop}
    {kinds : List TokenKind} (keeps : Keeps input item)
    (reads : Reads item view phrase starts ends) (begins : BeginsWith kinds phrase)
    (ready : ∀ {cursor : Cursor} {ahead : List Reading}, cursor.Sees ahead →
      continues cursor.current = true → starts ahead) :
    GetsOn input continues item := by
  refine ⟨fun {cursor moved place value} stands allows read => ?_⟩
  have sees : cursor.Sees (cursor.rest.map Token.reading) := ⟨rfl, stands.ended⟩
  obtain ⟨words, rest, same, seen, derived⟩ := reads.sound sees (ready sees allows) read
  have positive := begins.length_pos derived
  have fewer : moved.rest.length < cursor.rest.length := by
    rw [seen.length, sees.length, same, List.length_append]
    omega
  obtain ⟨later, order, behind⟩ := keeps.place stands read
  refine ⟨later, ?_, behind⟩
  rw [behind.length, stands.length] at fewer
  omega

/-- An item behind a separator passes the separator. -/
theorem Keeps.getsOn_separated {separator : TokenKind} (keeps : Keeps input item)
    (proper : separator ≠ .endOfInput) :
    GetsOn input (fun token => decide (token.kind = separator))
      (do let _ ← Production.advance; item) := by
  refine ⟨fun {cursor moved place value} stands allows read => ?_⟩
  have found : (input.token place).kind = separator :=
    stands.current ▸ of_decide_eq_true allows
  exact keeps.place (stands.pass (Input.place_lt found proper)) read

end Loops

/-- The loops inside a definition, each with what allows one more item. -/
structure LoopsRunFreely (input : Input) : Prop where
  /-- The values of a list. -/
  values : RunsFreely input (fun token => decide (token.kind ≠ .rightBracket)) constant
  /-- The fields of an object. -/
  objectFields : RunsFreely input (fun token => decide (token.kind ≠ .rightBrace))
    (fun cursor => objectField cursor (fun inner _ => constant inner))
  /-- The arguments of a directive. -/
  arguments : RunsFreely input (fun token => decide (token.kind ≠ .rightParen)) argument
  /-- Applied directives. -/
  directives : RunsFreely input (fun token => decide (token.kind = TokenKind.at)) directive
  /-- Declared arguments. -/
  declarations : RunsFreely input (fun token => decide (token.kind ≠ .rightParen)) inputValue
  /-- The fields of an input type. -/
  inputFields : RunsFreely input (fun token => decide (token.kind ≠ .rightBrace)) inputValue
  /-- The fields of an object or interface type. -/
  fields : RunsFreely input (fun token => decide (token.kind ≠ .rightBrace)) field
  /-- The values of an enumeration. -/
  enumMembers : RunsFreely input (fun token => decide (token.kind ≠ .rightBrace)) enumMember
  /-- The operations of a schema block. -/
  operations : RunsFreely input (fun token => decide (token.kind ≠ .rightBrace)) operationType
  /-- Further interfaces of a type. -/
  interfaces : RunsFreely input (fun token => decide (token.kind = .amp))
    (do let _ ← Production.advance; namedType)
  /-- Further members of a union. -/
  unionMembers : RunsFreely input (fun token => decide (token.kind = .pipe))
    (do let _ ← Production.advance; namedType)
  /-- Further locations of a directive. -/
  locations : RunsFreely input (fun token => decide (token.kind = .pipe))
    (do let _ ← Production.advance; expectName .directiveLocation)

/-- A field of an object is accepted exactly if it is one. -/
theorem objectField_reads :
    Reads (fun cursor => objectField cursor (fun inner _ => constant inner))
      ObjectField.withoutSpans ObjectFieldPhrase Anywhere (NextNot []) :=
  ⟨fun sees _ => (objectField_within (constant_within _)).sound (Nat.lt_succ_self _) sees rfl,
    fun sees => (objectField_within (constant_within _)).complete (Nat.lt_succ_self _) sees⟩

/-- A value of an enumeration that is accepted. -/
theorem enumMember_keeps (input : Input) : Keeps input enumMember := by
  refine ⟨fun {cursor moved place value} stands accepted => ?_⟩
  simp only [enumMember, bind_accepted, peek_accepted] at accepted
  obtain ⟨_, _, ⟨-, rfl⟩, _, _, describing, _, _, naming, rest⟩ := accepted
  obtain ⟨_, order, stands⟩ := description_tracks.keeps.place stands describing
  obtain ⟨_, further, stands⟩ := (expectName_tracks _).keeps.place stands naming
  split at rest
  · cases rest
  · simp only [bind_accepted, spanFrom_accepted, pure_accepted] at rest
    obtain ⟨_, _, applying, _, _, ⟨-, rfl⟩, -, rfl⟩ := rest
    obtain ⟨later, last, stands⟩ := directives_tracks.keeps.place stands applying
    exact ⟨later, Nat.le_trans order (Nat.le_trans further last), stands⟩

/-- Every loop inside a definition is ended by the token ahead of it or by an error. -/
theorem loops_runFreely (input : Input) : LoopsRunFreely input where
  values := (constant_tracks.keeps.getsOn constant_reads constant_begins
    (fun _ _ => trivial)).runsFreely
  objectFields :=
    have tracks : Tracks input (fun cursor => objectField cursor (fun inner _ => constant inner)) :=
      ⟨objectField_tracked (fun _ => constant_tracks.tracked)⟩
    (tracks.keeps.getsOn objectField_reads objectField_begins (fun _ _ => trivial)).runsFreely
  arguments := (argument_tracks.keeps.getsOn argument_reads argument_begins
    (fun _ _ => trivial)).runsFreely
  directives := (directive_tracks.keeps.getsOn directive_reads directive_begins
    (fun sees sign => by rwa [sees.kind] at sign)).runsFreely
  declarations := (inputValue_tracks.keeps.getsOn inputValue_reads inputValue_begins
    (fun _ _ => trivial)).runsFreely
  inputFields := (inputValue_tracks.keeps.getsOn inputValue_reads inputValue_begins
    (fun _ _ => trivial)).runsFreely
  fields := (field_tracks.keeps.getsOn field_reads field_begins (fun _ _ => trivial)).runsFreely
  enumMembers := ((enumMember_keeps input).getsOn enumMember_reads enumMember_begins
    (fun _ _ => trivial)).runsFreely
  operations := (operationType_tracks.keeps.getsOn operationType_reads operationType_begins
    (fun _ _ => trivial)).runsFreely
  interfaces := (namedType_tracks.keeps.getsOn_separated (by decide)).runsFreely
  unionMembers := (namedType_tracks.keeps.getsOn_separated (by decide)).runsFreely
  locations := ((expectName_tracks _).keeps.getsOn_separated (by decide)).runsFreely

/-! ## The order of errors -/

namespace Input

variable {input : Input} {place : Nat}

/-- The search does not begin in front of the token that an error is about. -/
theorem le_searchStart (input : Input) (error : GrammarError) (place : Nat) :
    place ≤ input.searchStart error place := by
  unfold searchStart
  split
  · split <;> omega
  · exact Nat.le_refl _

/-- The token at a place of the input is one of its tokens. -/
theorem getElem?_eq (within : place ≤ input.words.length) :
    (input.words ++ [input.finish])[place]? = some (input.token place) := by
  obtain rfl | inside := Nat.eq_or_lt_of_le within
  · simp [token]
  · simp [token, List.getElem?_append_left inside, List.getElem?_eq_getElem inside]

/-- Tokens whose offsets increase do so from place to place. -/
theorem start_lt
    (ordered : (input.words ++ [input.finish]).Pairwise
      (fun token next => token.start < next.start))
    {later : Nat} (order : place < later) (within : later ≤ input.words.length) :
    (input.token place).start < (input.token later).start := by
  have first := getElem?_eq (Nat.le_trans (Nat.le_of_lt order) within)
  have second := getElem?_eq within
  obtain ⟨bound, same⟩ := List.getElem?_eq_some_iff.mp first
  obtain ⟨boundLater, sameLater⟩ := List.getElem?_eq_some_iff.mp second
  rw [← same, ← sameLater]
  exact List.pairwise_iff_getElem.mp ordered _ _ bound boundLater order

end Input

/-- The tokens that errors are about stand at places that increase. By induction on the
attempts. -/
theorem Attempts.places {input : Input} {cursor : Cursor} {place : Nat} {attempts : List Attempt}
    (run : Attempts input cursor place attempts) :
    ∃ places : List Nat,
      (attempts.filterMap Attempt.error?).map GrammarError.found = places.map input.token ∧
      places.Pairwise (· < ·) ∧ ∀ found ∈ places, place ≤ found ∧ found ≤ input.words.length := by
  induction run with
  | finished => exact ⟨[], rfl, .nil, by simp⟩
  | accepted stands within read further inductionHypothesis =>
    obtain ⟨places, same, ordered, bounds⟩ := inductionHypothesis
    obtain ⟨reached, order, behind⟩ := definition_tracks.keeps.place stands read
    obtain rfl := behind.unique further.stands
    refine ⟨places, same, ordered, fun found member => ?_⟩
    exact ⟨Nat.le_trans order (bounds found member).1, (bounds found member).2⟩
  | @rejected _ _ place later error others stands within read further inductionHypothesis =>
    obtain ⟨places, same, ordered, bounds⟩ := inductionHypothesis
    obtain ⟨found, order, inside, about, resumed⟩ := next stands read further
    have apart : ∀ other ∈ places, found < other := by
      intro other member
      cases others with
      | nil =>
        obtain rfl := List.map_eq_nil_iff.mp same.symm
        cases member
      | cons attempt others =>
        have there : input.word? later = some attempt.start := further.head.symm
        have begins : attempt.start = later := by
          unfold Input.word? at there
          split at there
          · exact (Option.some.inj there).symm
          · cases there
        have behind := Input.le_of_nextDefinition? resumed.symm
        have search := input.le_searchStart error found
        have bound := (bounds other member).1
        omega
    refine ⟨found :: places, ?_, .cons apart ordered, ?_⟩
    · exact congrArg₂ List.cons about same
    · refine List.forall_mem_cons.mpr ⟨⟨order, inside⟩, fun other member => ?_⟩
      have later := apart other member
      exact ⟨by omega, (bounds other member).2⟩

/-- Tokens that tile a text begin at increasing offsets. -/
theorem Tiles.starts {text : Text} {offset : Nat} {tokens : List Token}
    (tiles : Tiles text offset tokens) :
    tokens.Pairwise (fun token next => token.start < next.start) := by
  induction tiles with
  | finish => exact List.pairwise_singleton _ _
  | token _ _ filled _ _ further inductionHypothesis =>
    refine .cons (fun next member => ?_) inductionHypothesis
    exact Nat.lt_of_lt_of_le filled (further.offset_le_start next member)

/-- Of the tokens that tile a text only the last one is the end of input. -/
theorem Tiles.body_kind {text : Text} {offset : Nat} {body : List Token} {finish : Token}
    (tiles : Tiles text offset (body ++ [finish])) :
    ∀ token ∈ body, token.kind ≠ .endOfInput := by
  generalize whole : body ++ [finish] = tokens at tiles
  induction tiles generalizing body with
  | finish =>
    obtain rfl : body = [] := (List.append_eq_singleton_iff.mp whole).elim And.left (by simp)
    simp
  | token inside _ _ _ _ further inductionHypothesis =>
    cases body with
    | nil => simp
    | cons token body =>
      obtain ⟨rfl, rfl⟩ := List.cons.inj whole
      exact List.forall_mem_cons.mpr ⟨inside, inductionHypothesis rfl⟩

/-- The errors of attempts at the tokens of a text are about these tokens, at increasing offsets,
and none comes behind one at the end of input. -/
theorem Attempts.inOrder {text : Text} {body : List Token} {input : Input} {cursor : Cursor}
    {place : Nat} {attempts : List Attempt} (tiles : Tiles text 0 (body ++ [input.finish]))
    (given : meaningful body = input.words) (run : Attempts input cursor place attempts) :
    (∀ error ∈ attempts.filterMap Attempt.error?,
      error.found ∈ input.words ++ [input.finish]) ∧
    (attempts.filterMap Attempt.error?).Pairwise (fun error next =>
      error.found.start < next.found.start ∧ error.found.kind ≠ .endOfInput) := by
  obtain ⟨places, same, increasing, bounds⟩ := run.places
  have ordered : (input.words ++ [input.finish]).Pairwise
      (fun token next => token.start < next.start) :=
    tiles.starts.sublist (given ▸ List.filter_sublist.append (.refl _))
  have inside {found : Nat} (within : found < input.words.length) :
      (input.token found).kind ≠ .endOfInput := by
    have word : input.token found ∈ input.words := by
      simp [Input.token, List.getElem?_eq_getElem within]
    rw [← given] at word
    exact tiles.body_kind _ (List.mem_filter.mp word).1
  constructor
  · intro error listed
    have about : error.found ∈ places.map input.token := same ▸ List.mem_map_of_mem listed
    obtain ⟨found, among, there⟩ := List.mem_map.mp about
    rw [← there]
    exact List.mem_of_getElem? (Input.getElem?_eq (bounds found among).2)
  · have apart : (places.map input.token).Pairwise
        (fun token next => token.start < next.start ∧ token.kind ≠ .endOfInput) := by
      rw [List.pairwise_map]
      refine increasing.imp_of_mem ?_
      intro found next among amongNext order
      have within := (bounds next amongNext).2
      exact ⟨Input.start_lt ordered order within, inside (Nat.lt_of_lt_of_le order within)⟩
    rw [← same] at apart
    exact List.pairwise_map.mp apart

/-- Reading a text that is a sequence of tokens comes to its end. There are attempts up to the
last token, no production leaves the tokens, and each loop inside a definition is ended by the
token ahead of it or by an error. If the text is refused then with errors that are about tokens of
it, comments apart, and are placed there; their offsets increase, and none comes behind one that
is found at the end of input. All errors together are placed at the first one. -/
theorem parseDocument_finishes {text : Text} {tokens : List Token}
    (scanned : tokenize text = .ok tokens) :
    ∃ (body : List Token) (input : Input),
      tokens = body ++ [input.finish] ∧ meaningful body = input.words ∧
      (∃ attempts, Attempts input (.ofTokens body input.finish) 0 attempts ∧
        DocumentReading.ofCursor (.ofTokens body input.finish) =
          ⟨attempts.filterMap Attempt.definition?, attempts.filterMap Attempt.error?⟩) ∧
      Tracks input Grammar.definition ∧ LoopsRunFreely input ∧
      ∀ refusal, parseDocument text = .error refusal →
        ∃ first others, refusal = .grammatical first others ∧
          (∀ error ∈ first :: others, error.found ∈ meaningful tokens ∧
            ∀ source, (Problem.grammatical source error).location =
              renderLocation source error.found.line error.found.column) ∧
          (first :: others).Pairwise (fun error next => error.found.start < next.found.start) ∧
          (∀ front error back, first :: others = front ++ error :: back →
            error.found.kind = .endOfInput → back = []) ∧
          ∀ source, (Problem.ofDocumentError source refusal).location =
            (Problem.grammatical source first).location := by
  have tiles := tiles_of_tokenize scanned
  obtain ⟨body, rfl⟩ := scan_ends scanned
  obtain ⟨input, given, finish⟩ : ∃ input : Input, meaningful body = input.words ∧
      Token.finish (Position.origin.through text) = input.finish :=
    ⟨⟨meaningful body, Token.finish (Position.origin.through text), rfl⟩, rfl, rfl⟩
  rw [finish] at scanned tiles ⊢
  obtain ⟨attempts, run, read⟩ := exists_attempts (Cursor.ofTokens_at given)
  obtain ⟨among, ordered⟩ := run.inOrder tiles given
  have whole : meaningful (body ++ [input.finish]) = input.words ++ [input.finish] := by
    rw [meaningful, List.filter_append, ← meaningful, given]
    simp [input.ended]
  refine ⟨body, input, rfl, given, ⟨attempts, run, read⟩, definition_tracks, loops_runFreely input,
    fun refusal refused => ?_⟩
  cases refusal with
  | lexical error =>
    simp only [parseDocument, scanned, definitionsOfTokens] at refused
    split at refused <;> cases refused
  | grammatical first others =>
    have errors : attempts.filterMap Attempt.error? = first :: others := by
      rw [parseDocument_eq_grammatical, grammarErrors_eq scanned] at refused
      exact (congrArg DocumentReading.errors read).symm.trans refused
    rw [errors] at among ordered
    refine ⟨first, others, rfl, fun error listed => ⟨whole ▸ among error listed, fun _ => rfl⟩,
      ordered.imp And.left, ?_, fun _ => rfl⟩
    intro front error back split ended
    rw [split] at ordered
    cases back with
    | nil => rfl
    | cons next back =>
      have pair := (List.pairwise_append.mp ordered).2.1
      exact absurd ended ((List.pairwise_cons.mp pair).1 next (.head _)).2

/-- A type that is missed inside of braces, and one that is missed at the end of the text. -/
theorem parseDocument_finishes_union :
    ∃ first last, parseDocument ("type A { a: }\nunion B =" : Text) =
        .error (.grammatical first [last]) ∧
      first.found.start < last.found.start ∧ last.found.kind = .endOfInput ∧
      ∀ source, (Problem.ofDocumentError source (.grammatical first [last])).location =
        renderLocation source 1 13 := by
  have scanned : tokenize ("type A { a: }\nunion B =" : Text) = .ok
      [⟨.name, "type", 1, 1, 0, 4⟩, ⟨.name, "A", 1, 6, 5, 6⟩, ⟨.leftBrace, "\x7b", 1, 8, 7, 8⟩,
        ⟨.name, "a", 1, 10, 9, 10⟩, ⟨.colon, ":", 1, 11, 10, 11⟩,
        ⟨.rightBrace, "\x7d", 1, 13, 12, 13⟩, ⟨.name, "union", 2, 1, 14, 19⟩,
        ⟨.name, "B", 2, 7, 20, 21⟩, ⟨.equals, "=", 2, 9, 22, 23⟩,
        ⟨.endOfInput, "", 2, 10, 23, 23⟩] := by cbv
  have refused : parseDocument ("type A { a: }\nunion B =" : Text) =
      .error (.grammatical ⟨.expectedName .type, ⟨.rightBrace, "\x7d", 1, 13, 12, 13⟩⟩
        [⟨.expectedName .type, ⟨.endOfInput, "", 2, 10, 23, 23⟩⟩]) :=
    parseDocument_eq_grammatical.mpr (by decide +kernel)
  obtain ⟨_, _, _, _, _, _, _, errors⟩ := parseDocument_finishes scanned
  obtain ⟨first, others, same, _, ordered, _, placed⟩ := errors _ refused
  cases same
  exact ⟨_, _, refused, (List.pairwise_cons.mp ordered).1 _ (.head _), rfl, placed⟩

end SchemaForge

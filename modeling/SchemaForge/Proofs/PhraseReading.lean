import SchemaForge.Proofs.SchemaPhrases
import SchemaForge.Schema.Cursor

/-!
# Productions that read phrases

A production decides on one token of lookahead, a phrase on none. `Reads` says that
the two agree: whatever the production accepts is a phrase with the same tree, and
a phrase is accepted whenever the words behind it cannot be taken for more of it.
What must not follow is part of the statement, because without it the second half
is false: a type in front of an exclamation mark is read together with the mark.

The only loop of the grammar is treated once. It ends because every item has a
first word, which is also what tells it from the words behind the list.
-/

namespace SchemaForge

variable {α β γ : Type}

/-! ## What a cursor sees -/

/-- The kind of the first word, and the end of input if there is none. -/
def nextKind : List Reading → TokenKind
  | [] => .endOfInput
  | word :: _ => word.1

/-- A kind other than the end of input is that of a first word. -/
theorem exists_of_nextKind {ahead : List Reading} {kind : TokenKind}
    (found : nextKind ahead = kind) (proper : kind ≠ .endOfInput) :
    ∃ value rest, ahead = (kind, value) :: rest := by
  cases ahead with
  | nil => exact absurd found.symm proper
  | cons word rest =>
    obtain ⟨seen, value⟩ := word
    exact ⟨value, rest, by rw [← found]; rfl⟩

/-- The words of the tokens ahead. The token behind them is that of the end of input. -/
structure Cursor.Sees (cursor : Cursor) (ahead : List Reading) : Prop where
  /-- The tokens ahead read as these words. -/
  words : cursor.rest.map Token.reading = ahead
  /-- No production takes the last token for another. -/
  finish : cursor.finish.kind = .endOfInput

namespace Cursor.Sees

variable {cursor : Cursor} {ahead : List Reading} {word : Reading}

/-- The next token has the kind of the first word. -/
theorem kind (sees : cursor.Sees ahead) : cursor.current.kind = nextKind ahead := by
  obtain ⟨rfl, finish⟩ := sees
  unfold Cursor.current
  cases cursor.rest with
  | nil => exact finish
  | cons token tokens => rfl

/-- The next token reads as the first word. -/
theorem current (sees : cursor.Sees (word :: ahead)) : cursor.current.reading = word := by
  obtain ⟨words, -⟩ := sees
  unfold Cursor.current
  cases tokens : cursor.rest with
  | nil => simp [tokens] at words
  | cons token others =>
    rw [tokens] at words
    exact (List.cons.inj words).1

/-- The next token has the value of the first word. -/
theorem value (sees : cursor.Sees (word :: ahead)) : cursor.current.value = word.2 :=
  congrArg Prod.snd sees.current

/-- Passing a token passes its word. -/
theorem advance (sees : cursor.Sees (word :: ahead)) : cursor.advance.Sees ahead := by
  obtain ⟨words, finish⟩ := sees
  unfold Cursor.advance
  cases tokens : cursor.rest with
  | nil => simp [tokens] at words
  | cons token others =>
    rw [tokens] at words
    exact ⟨(List.cons.inj words).2, finish⟩

/-- There are as many tokens ahead as words. -/
theorem length (sees : cursor.Sees ahead) : cursor.rest.length = ahead.length := by
  rw [← sees.words, List.length_map]

/-- Behind a word fewer tokens are ahead. -/
theorem fewer (sees : cursor.Sees (word :: ahead)) :
    cursor.advance.rest.length < cursor.rest.length := by
  rw [sees.advance.length, sees.length]
  exact Nat.lt_succ_self _

end Cursor.Sees

/-- Passing a token passes a mark. -/
theorem Mark.pass {kind : TokenKind} {mark rest : List Reading} {cursor : Cursor}
    (marked : Mark kind mark) (sees : cursor.Sees (mark ++ rest)) : cursor.advance.Sees rest := by
  obtain ⟨spelling⟩ := marked
  exact sees.advance

/-- Passing a token passes a keyword. -/
theorem Keyword.pass {word : Text} {words rest : List Reading} {cursor : Cursor}
    (introduced : Keyword word words) (sees : cursor.Sees (words ++ rest)) :
    cursor.advance.Sees rest := by
  obtain ⟨⟩ := introduced
  exact sees.advance

/-! ## Accepted outcomes -/

namespace Production

variable {cursor moved last : Cursor}

/-- A sequence of productions is accepted exactly if each is, one behind the other. -/
theorem bind_accepted {first : Production α} {next : α → Production β} {value : β} :
    (first >>= next) cursor = .accepted value last ↔
      ∃ given moved, first cursor = .accepted given moved ∧
        next given moved = .accepted value last := by
  simp only [bind]
  cases first cursor with
  | rejected error stopped => simp
  | accepted given moved =>
    constructor
    · intro accepted
      exact ⟨given, moved, rfl, accepted⟩
    · rintro ⟨_, _, same, accepted⟩
      obtain ⟨rfl, rfl⟩ := Outcome.accepted.inj same
      exact accepted

/-- One production behind another. -/
theorem accepted_bind {first : Production α} {next : α → Production β} {given : α} {value : β}
    (before : first cursor = .accepted given moved)
    (behind : next given moved = .accepted value last) :
    (first >>= next) cursor = .accepted value last :=
  bind_accepted.mpr ⟨given, moved, before, behind⟩

/-- A value is given without passing a token. -/
theorem pure_accepted {value given : α} :
    (pure given : Production α) cursor = .accepted value last ↔
      given = value ∧ cursor = last := by
  change Outcome.accepted given cursor = _ ↔ _
  simp

/-- Looking at the next token passes nothing. -/
theorem peek_accepted {token : Token} :
    peek cursor = .accepted token last ↔ cursor.current = token ∧ cursor = last := by
  simp [peek]

/-- Any next token can be passed. -/
theorem advance_accepted {token : Token} :
    advance cursor = .accepted token last ↔ cursor.current = token ∧ cursor.advance = last := by
  simp [advance]

/-- Taking a span passes nothing. -/
theorem spanFrom_accepted {first : Token} {span : Span} :
    spanFrom first cursor = .accepted span last ↔
      cursor.spanFrom first = span ∧ cursor = last := by
  simp [spanFrom]

/-- A refusal accepts nothing. -/
theorem reject_accepted {fault : GrammarFault} {value : α} :
    reject fault cursor = .accepted value last ↔ False := by
  simp [reject]

/-- A token of the wanted kind is passed, and no other. -/
theorem expect_accepted {kind : TokenKind} {fault : GrammarFault} {token : Token} :
    expect kind fault cursor = .accepted token last ↔
      cursor.current.kind = kind ∧ cursor.current = token ∧ cursor.advance = last := by
  unfold expect
  split <;> simp_all

/-- A token of the given kind is passed if it is there. -/
theorem accept_accepted {kind : TokenKind} {found : Bool} :
    accept kind cursor = .accepted found last ↔
      (cursor.current.kind = kind ∧ found = true ∧ cursor.advance = last) ∨
        (cursor.current.kind ≠ kind ∧ found = false ∧ cursor = last) := by
  unfold accept
  split <;> simp_all [eq_comm]

end Production

/-! ## Reading a phrase -/

/-- No condition on the words ahead. -/
def Anywhere (_ : List Reading) : Prop := True

/-- The first word ahead is of none of the given kinds. -/
def NextNot (kinds : List TokenKind) (ahead : List Reading) : Prop := nextKind ahead ∉ kinds

/-- No kind is ruled out by an empty list. -/
theorem nextNot_nil (ahead : List Reading) : NextNot [] ahead := List.not_mem_nil

/-- What rules out some kinds rules out fewer. -/
theorem NextNot.of_subset {kinds fewer : List TokenKind} {ahead : List Reading}
    (ended : NextNot kinds ahead) (subset : fewer ⊆ kinds) : NextNot fewer ahead :=
  fun member => ended (subset member)

/-- A mark of another kind rules the given ones out. -/
theorem Mark.nextNot {kind : TokenKind} {kinds : List TokenKind} {mark : List Reading}
    (marked : Mark kind mark) (other : kind ∉ kinds) (rest : List Reading) :
    NextNot kinds (mark ++ rest) := by
  obtain ⟨spelling⟩ := marked
  exact other

/-- A production accepts exactly the phrases, with the tree that a view takes from its
value. `starts` is what the caller has seen ahead before it asks for the production;
`ends` is what has to come behind a phrase for it to be the whole that is read. -/
structure Reads (production : Production α) (view : α → β) (phrase : Phrase β)
    (starts ends : List Reading → Prop) : Prop where
  /-- What is accepted is a phrase, and the cursor stands behind it. -/
  sound : ∀ {cursor last : Cursor} {ahead : List Reading} {value : α}, cursor.Sees ahead →
    starts ahead → production cursor = .accepted value last →
    ∃ words rest, ahead = words ++ rest ∧ last.Sees rest ∧ phrase words (view value)
  /-- A phrase that has ended is accepted. -/
  complete : ∀ {cursor : Cursor} {words rest : List Reading} {tree : β},
    cursor.Sees (words ++ rest) → phrase words tree → ends rest →
    ∃ value last, production cursor = .accepted value last ∧ last.Sees rest ∧ view value = tree

/-- Less may be asked of what comes behind. -/
theorem Reads.ending {production : Production α} {view : α → β} {phrase : Phrase β}
    {starts ends wanted : List Reading → Prop} (reads : Reads production view phrase starts ends)
    (enough : ∀ {rest}, wanted rest → ends rest) :
    Reads production view phrase starts wanted :=
  ⟨reads.sound, fun sees derived ended => reads.complete sees derived (enough ended)⟩

/-- The kinds of word that a phrase begins with. Such a phrase is never empty. -/
def BeginsWith (kinds : List TokenKind) (phrase : Phrase β) : Prop :=
  ∀ {words : List Reading} {tree : β}, phrase words tree →
    ∃ word others, words = word :: others ∧ word.1 ∈ kinds

namespace BeginsWith

variable {kinds : List TokenKind} {phrase : Phrase β} {words : List Reading} {tree : β}

/-- The first word of a phrase is of one of the kinds, whatever comes behind. -/
theorem nextKind_mem (begins : BeginsWith kinds phrase) (derived : phrase words tree)
    (rest : List Reading) : nextKind (words ++ rest) ∈ kinds := by
  obtain ⟨word, others, rfl, member⟩ := begins derived
  exact member

/-- A phrase that begins with other kinds rules the given ones out. -/
theorem nextNot {others : List TokenKind} (begins : BeginsWith kinds phrase)
    (derived : phrase words tree) (different : ∀ kind ∈ kinds, kind ∉ others)
    (rest : List Reading) : NextNot others (words ++ rest) :=
  different _ (begins.nextKind_mem derived rest)

/-- A phrase has at least one word. -/
theorem length_pos (begins : BeginsWith kinds phrase) (derived : phrase words tree) :
    0 < words.length := by
  obtain ⟨word, others, rfl, -⟩ := begins derived
  exact Nat.succ_pos _

end BeginsWith

/-- What holds before every item and before the words behind the items holds before all
of them. -/
theorem Repeated.before (holds : List Reading → Prop) {kinds : List TokenKind}
    {phrase : Phrase β} {words rest : List Reading} {trees : List β}
    (derived : Repeated phrase words trees) (begins : BeginsWith kinds phrase)
    (item : ∀ word others, word.1 ∈ kinds → holds (word :: others)) (behind : holds rest) :
    holds (words ++ rest) := by
  cases derived with
  | none => exact behind
  | more first further =>
    obtain ⟨word, others, rfl, member⟩ := begins first
    exact item word _ member

/-- What holds before the opening mark and before the words behind the part holds before
the part. -/
theorem Introduced.before (holds : List Reading → Prop) {opener : TokenKind}
    {phrase : Phrase β} {otherwise tree : β} {words rest : List Reading}
    (derived : Introduced opener phrase otherwise words tree)
    (mark : ∀ spelling others, holds ((opener, spelling) :: others)) (behind : holds rest) :
    holds (words ++ rest) := by
  cases derived with
  | absent => exact behind
  | present opened given =>
    obtain ⟨spelling⟩ := opened
    exact mark spelling _

/-- Items that begin with other kinds rule out what the words behind them rule out. -/
theorem Repeated.nextNot {kinds others : List TokenKind} {phrase : Phrase β}
    {words rest : List Reading} {trees : List β} (derived : Repeated phrase words trees)
    (begins : BeginsWith kinds phrase) (different : ∀ kind ∈ kinds, kind ∉ others)
    (ended : NextNot others rest) : NextNot others (words ++ rest) :=
  derived.before _ begins (fun _ _ member => different _ member) ended

/-- A part that another mark introduces rules out what the words behind it rule out. -/
theorem Introduced.nextNot {opener : TokenKind} {others : List TokenKind} {phrase : Phrase β}
    {otherwise tree : β} {words rest : List Reading}
    (derived : Introduced opener phrase otherwise words tree) (different : opener ∉ others)
    (ended : NextNot others rest) : NextNot others (words ++ rest) :=
  derived.before _ (fun _ _ => different) ended

/-- A name begins with itself. -/
theorem name_begins : BeginsWith [.name] NamePhrase := by
  rintro words tree ⟨name⟩
  exact ⟨_, _, rfl, List.mem_singleton_self _⟩

/-! ## The loop -/

/-- `Reads` for an item that may rely on fewer tokens ahead than a limit, as the items
of a value do on those of the value. The loop asks for an item only at a kind that the
test allows. -/
structure ReadsWithin (limit : Nat)
    (item : (cursor : Cursor) → cursor.rest.length < limit → Outcome α) (view : α → β)
    (phrase : Phrase β) (test : TokenKind → Bool) (ends : List Reading → Prop) : Prop where
  /-- What is accepted is a phrase, and the cursor stands behind it. -/
  sound : ∀ {cursor last : Cursor} {ahead : List Reading} {value : α}
    (within : cursor.rest.length < limit), cursor.Sees ahead → test (nextKind ahead) = true →
    item cursor within = .accepted value last →
    ∃ words rest, ahead = words ++ rest ∧ last.Sees rest ∧ phrase words (view value)
  /-- A phrase that has ended is accepted. -/
  complete : ∀ {cursor : Cursor} {words rest : List Reading} {tree : β}
    (within : cursor.rest.length < limit), cursor.Sees (words ++ rest) → phrase words tree →
    ends rest →
    ∃ value last, item cursor within = .accepted value last ∧ last.Sees rest ∧ view value = tree

section Loop

variable {limit : Nat} {item : (cursor : Cursor) → cursor.rest.length < limit → Outcome α}
  {view : α → β} {phrase : Phrase β} {test : TokenKind → Bool} {stops kinds : List TokenKind}

/-- What the loop accepts is a sequence of phrases up to the first word that the test
refuses. The case of an item without words, in which the loop would stop early, does
not arise. -/
theorem collect_sound {ends : List Reading → Prop}
    (reads : ReadsWithin limit item view phrase test ends) (begins : BeginsWith kinds phrase)
    {cursor last : Cursor} {within : cursor.rest.length < limit} {ahead : List Reading}
    {values : List α} (sees : cursor.Sees ahead)
    (accepted : Production.collect (fun token => test token.kind) limit item cursor within =
      .accepted values last) :
    ∃ words rest, ahead = words ++ rest ∧ last.Sees rest ∧
      Repeated phrase words (values.map view) ∧ test (nextKind rest) = false := by
  induction size : cursor.rest.length using Nat.strongRecOn generalizing cursor ahead values with
  | ind size inductionHypothesis =>
    unfold Production.collect at accepted
    split at accepted
    · next continues =>
      have allowed : test (nextKind ahead) = true := by rw [← sees.kind]; exact continues
      cases result : item cursor within with
      | rejected error stopped => simp [result] at accepted
      | accepted value moved =>
        obtain ⟨words, rest, rfl, moving, derived⟩ := reads.sound within sees allowed result
        have shorter : moved.rest.length < cursor.rest.length := by
          have positive := begins.length_pos derived
          rw [moving.length, sees.length, List.length_append]
          omega
        simp only [result, shorter, ↓reduceDIte] at accepted
        split at accepted
        · next others final looped =>
          cases accepted
          obtain ⟨more, behind, rfl, seen, further, refused⟩ :=
            inductionHypothesis moved.rest.length (size ▸ shorter) moving looped rfl
          exact ⟨words ++ more, behind, (List.append_assoc ..).symm, seen,
            .more derived further, refused⟩
        · cases accepted
    · next stopping =>
      cases accepted
      refine ⟨[], ahead, rfl, sees, .none, ?_⟩
      rw [← sees.kind]
      simpa using stopping

/-- The loop accepts a sequence of phrases that has ended. Each item is followed by a
word that begins the next one, or by the words behind the list. -/
theorem collect_complete (reads : ReadsWithin limit item view phrase test (NextNot stops))
    (begins : BeginsWith kinds phrase)
    (tells : ∀ kind ∈ kinds, test kind = true ∧ kind ∉ stops)
    {words rest : List Reading} {trees : List β} (derived : Repeated phrase words trees)
    (ended : NextNot stops rest) (refused : test (nextKind rest) = false)
    {cursor : Cursor} (within : cursor.rest.length < limit)
    (sees : cursor.Sees (words ++ rest)) :
    ∃ values last,
      Production.collect (fun token => test token.kind) limit item cursor within =
        .accepted values last ∧ last.Sees rest ∧ values.map view = trees := by
  induction derived generalizing cursor with
  | none =>
    refine ⟨[], cursor, ?_, sees, rfl⟩
    have stopping : test cursor.current.kind = false := by rw [sees.kind]; exact refused
    unfold Production.collect
    simp [stopping]
  | @more words others tree trees first further inductionHypothesis =>
    rw [List.append_assoc] at sees
    have behind : NextNot stops (others ++ rest) :=
      further.nextNot begins (fun kind member => (tells kind member).2) ended
    obtain ⟨value, moved, accepted, moving, rfl⟩ := reads.complete within sees first behind
    have shorter : moved.rest.length < cursor.rest.length := by
      have positive := begins.length_pos first
      simp only [moving.length, sees.length, List.length_append]
      omega
    obtain ⟨values, last, looped, seen, rfl⟩ :=
      inductionHypothesis (Nat.lt_trans shorter within) moving
    refine ⟨value :: values, last, ?_, seen, rfl⟩
    have continues : test cursor.current.kind = true := by
      rw [sees.kind]
      exact (tells _ (begins.nextKind_mem first _)).1
    unfold Production.collect
    simp [continues, accepted, shorter, looped]

/-- Up to a closing mark the loop accepts a sequence of phrases, and the cursor stands
before the mark. -/
theorem collectUntil_sound {closer : TokenKind} {ends : List Reading → Prop}
    (reads : ReadsWithin limit item view phrase (fun _ => true) ends)
    (begins : BeginsWith kinds phrase) (proper : closer ≠ .endOfInput) {cursor last : Cursor}
    {within : cursor.rest.length < limit} {ahead : List Reading} {values : List α}
    (sees : cursor.Sees ahead)
    (accepted : Production.collect (fun token => decide (token.kind ≠ closer)) limit item cursor
      within = .accepted values last) :
    ∃ words rest, ahead = words ++ rest ∧ last.advance.Sees rest ∧
      Enclosed closer phrase words (values.map view) := by
  have tested : ReadsWithin limit item view phrase (fun kind => decide (kind ≠ closer)) ends :=
    ⟨fun within sees _ => reads.sound within sees rfl, reads.complete⟩
  obtain ⟨words, rest, rfl, seen, items, refused⟩ := collect_sound tested begins sees accepted
  have atCloser : nextKind rest = closer := by simpa using refused
  obtain ⟨spelling, behind, rfl⟩ := exists_of_nextKind atCloser proper
  exact ⟨words ++ [(closer, spelling)], behind, by simp, seen.advance,
    .intro items (.intro spelling)⟩

/-- A loop up to a closing mark stops in front of the mark. -/
theorem collectUntil_stops {closer : TokenKind} {ends : List Reading → Prop}
    (reads : ReadsWithin limit item view phrase (fun _ => true) ends)
    (begins : BeginsWith kinds phrase) {cursor last : Cursor}
    {within : cursor.rest.length < limit} {values : List α}
    (ended : cursor.finish.kind = .endOfInput)
    (accepted : Production.collect (fun token => decide (token.kind ≠ closer)) limit item cursor
      within = .accepted values last) : last.current.kind = closer := by
  have tested : ReadsWithin limit item view phrase (fun kind => decide (kind ≠ closer)) ends :=
    ⟨fun within sees _ => reads.sound within sees rfl, reads.complete⟩
  obtain ⟨-, rest, -, seen, -, refused⟩ := collect_sound tested begins ⟨rfl, ended⟩ accepted
  rw [seen.kind]
  simpa using refused

/-- Items and a closing mark are accepted up to the mark. An item must not begin with
the mark, and the mark must be able to follow an item. -/
theorem collectUntil_complete {closer : TokenKind}
    (reads : ReadsWithin limit item view phrase (fun _ => true) (NextNot stops))
    (begins : BeginsWith kinds phrase) (tells : ∀ kind ∈ kinds, kind ≠ closer ∧ kind ∉ stops)
    (closes : closer ∉ stops) {words rest : List Reading} {trees : List β}
    (derived : Enclosed closer phrase words trees) {cursor : Cursor}
    (within : cursor.rest.length < limit) (sees : cursor.Sees (words ++ rest)) :
    ∃ values last,
      Production.collect (fun token => decide (token.kind ≠ closer)) limit item cursor within =
        .accepted values last ∧ last.advance.Sees rest ∧ values.map view = trees := by
  have tested :
      ReadsWithin limit item view phrase (fun kind => decide (kind ≠ closer)) (NextNot stops) :=
    ⟨fun within sees _ => reads.sound within sees rfl, reads.complete⟩
  obtain ⟨items, closed⟩ := derived
  have ended := closed.nextNot closes rest
  obtain ⟨spelling⟩ := closed
  rw [List.append_assoc] at sees
  obtain ⟨values, last, looped, seen, same⟩ := collect_complete tested begins
    (fun kind member => ⟨by simpa using (tells kind member).1, (tells kind member).2⟩)
    items ended (by simp [nextKind]) within sees
  exact ⟨values, last, looped, seen.advance, same⟩

end Loop

/-! ## Combined productions -/

section Combined

open Production

variable {item : Production α} {view : α → β} {phrase : Phrase β}
  {stops kinds : List TokenKind}

/-- A wanted mark is one word. -/
theorem expect_sound {kind : TokenKind} {fault : GrammarFault} {cursor last : Cursor}
    {ahead : List Reading} {token : Token} (sees : cursor.Sees ahead)
    (accepted : expect kind fault cursor = .accepted token last) (proper : kind ≠ .endOfInput) :
    ∃ mark rest, ahead = mark ++ rest ∧ last.Sees rest ∧ Mark kind mark := by
  obtain ⟨matched, rfl, rfl⟩ := expect_accepted.mp accepted
  obtain ⟨spelling, rest, rfl⟩ := exists_of_nextKind (sees.kind.symm.trans matched) proper
  exact ⟨[(kind, spelling)], rest, rfl, sees.advance, .intro spelling⟩

/-- A mark is accepted where it is wanted. -/
theorem expect_complete {kind : TokenKind} (fault : GrammarFault) {cursor : Cursor}
    {mark rest : List Reading} (sees : cursor.Sees (mark ++ rest)) (marked : Mark kind mark) :
    ∃ token last, expect kind fault cursor = .accepted token last ∧ last.Sees rest := by
  have matched : cursor.current.kind = kind := by
    obtain ⟨spelling⟩ := marked
    exact sees.kind
  exact ⟨_, _, expect_accepted.mpr ⟨matched, rfl, rfl⟩, marked.pass sees⟩

/-- A wanted name is one word, whatever it spells. -/
theorem expectName_reads (role : NameRole) :
    Reads (expectName role) Token.value NamePhrase Anywhere (NextNot []) where
  sound := by
    intro cursor last ahead token sees _ accepted
    obtain ⟨matched, rfl, rfl⟩ := expect_accepted.mp accepted
    obtain ⟨name, rest, rfl⟩ := exists_of_nextKind (sees.kind.symm.trans matched) (by decide)
    exact ⟨[(.name, name)], rest, rfl, sees.advance, by rw [sees.value]; exact .intro name⟩
  complete := by
    intro cursor words rest name sees derived _
    obtain ⟨name⟩ := derived
    exact ⟨_, _, expect_accepted.mpr ⟨sees.kind, rfl, rfl⟩, sees.advance, sees.value⟩

/-- Items are read for as long as the next word begins one. -/
theorem many_sound (test : TokenKind → Bool) {ends : List Reading → Prop}
    (reads : Reads item view phrase (fun ahead => test (nextKind ahead) = true) ends)
    (begins : BeginsWith kinds phrase) {cursor last : Cursor} {ahead : List Reading}
    {values : List α} (sees : cursor.Sees ahead)
    (accepted : many (fun token => test token.kind) item cursor = .accepted values last) :
    ∃ words rest, ahead = words ++ rest ∧ last.Sees rest ∧
      Repeated phrase words (values.map view) ∧ test (nextKind rest) = false :=
  collect_sound ⟨fun _ sees allowed accepted => reads.sound sees allowed accepted,
    fun _ sees derived ended => reads.complete sees derived ended⟩ begins sees accepted

/-- Items are read up to a word that begins none. -/
theorem many_complete (test : TokenKind → Bool)
    (reads : Reads item view phrase (fun ahead => test (nextKind ahead) = true) (NextNot stops))
    (begins : BeginsWith kinds phrase)
    (tells : ∀ kind ∈ kinds, test kind = true ∧ kind ∉ stops)
    {cursor : Cursor} {words rest : List Reading} {trees : List β}
    (sees : cursor.Sees (words ++ rest)) (derived : Repeated phrase words trees)
    (ended : NextNot stops rest) (refused : test (nextKind rest) = false) :
    ∃ values last, many (fun token => test token.kind) item cursor = .accepted values last ∧
      last.Sees rest ∧ values.map view = trees :=
  collect_complete ⟨fun _ sees allowed accepted => reads.sound sees allowed accepted,
    fun _ sees derived ended => reads.complete sees derived ended⟩ begins tells derived ended
    refused _ sees

/-- Items up to a closing mark are read together with the mark. -/
theorem manyUntil_reads {closer : TokenKind}
    (reads : Reads item view phrase Anywhere (NextNot stops)) (begins : BeginsWith kinds phrase)
    (tells : ∀ kind ∈ kinds, kind ≠ closer ∧ kind ∉ stops) (closes : closer ∉ stops)
    (proper : closer ≠ .endOfInput) :
    Reads (manyUntil closer item) (List.map view) (Enclosed closer phrase) Anywhere
      (NextNot []) := by
  have within (limit : Nat) : ReadsWithin limit (fun inner _ => item inner) view phrase
      (fun _ => true) (NextNot stops) :=
    ⟨fun _ sees _ => reads.sound sees trivial, fun _ sees => reads.complete sees⟩
  constructor
  · intro cursor last ahead values sees _ accepted
    simp only [manyUntil, bind_accepted, advance_accepted, pure_accepted] at accepted
    obtain ⟨_, before, looped, _, _, ⟨rfl, rfl⟩, rfl, rfl⟩ := accepted
    exact collectUntil_sound (within _) begins proper sees looped
  · intro cursor words rest trees sees derived _
    obtain ⟨values, before, looped, seen, same⟩ :=
      collectUntil_complete (within _) begins tells closes derived (Nat.lt_succ_self _) sees
    exact ⟨values, _, accepted_bind looped (accepted_bind rfl rfl), seen, same⟩

/-- A part that its opening mark decides on. Without the mark nothing is passed, so the
mark must not follow. -/
theorem introduced_reads {opener : TokenKind} {part : Production α} (otherwise : α)
    {ends : List Reading → Prop} (reads : Reads part view phrase Anywhere ends)
    (proper : opener ≠ .endOfInput) :
    Reads (do if ← accept opener then part else pure otherwise) view
      (Introduced opener phrase (view otherwise)) Anywhere
      (fun rest => ends rest ∧ nextKind rest ≠ opener) where
  sound := by
    intro cursor last ahead value sees _ accepted
    simp only [bind_accepted, accept_accepted] at accepted
    obtain ⟨_, moved, ⟨matched, rfl, rfl⟩ | ⟨_, rfl, rfl⟩, behind⟩ := accepted
    · obtain ⟨spelling, rest, rfl⟩ := exists_of_nextKind (sees.kind.symm.trans matched) proper
      obtain ⟨words, rest, rfl, seen, derived⟩ := reads.sound sees.advance trivial behind
      exact ⟨(opener, spelling) :: words, rest, rfl, seen, .present (.intro spelling) derived⟩
    · obtain ⟨rfl, rfl⟩ := pure_accepted.mp behind
      exact ⟨[], ahead, rfl, sees, .absent⟩
  complete := by
    rintro cursor words rest tree sees derived ⟨ended, different⟩
    cases derived with
    | absent =>
      have missing : cursor.current.kind ≠ opener := by rw [sees.kind]; exact different
      exact ⟨otherwise, cursor, accepted_bind (accept_accepted.mpr (.inr ⟨missing, rfl, rfl⟩)) rfl,
        sees, rfl⟩
    | present opened given =>
      obtain ⟨spelling⟩ := opened
      obtain ⟨value, last, accepted, seen, same⟩ := reads.complete sees.advance given ended
      exact ⟨value, last,
        accepted_bind (accept_accepted.mpr (.inl ⟨sees.kind, rfl, rfl⟩)) accepted, seen, same⟩

/-- A list that must not be empty is refused when it is. -/
theorem nonEmpty_reads {list : Production (List α)} {phrase : Phrase (List β)}
    {ends : List Reading → Prop} (fault : GrammarFault)
    (reads : Reads list (List.map view) phrase Anywhere ends) :
    Reads (do
        let given ← list
        if given.isEmpty then reject fault else pure given)
      (List.map view) (NonEmpty phrase) Anywhere ends where
  sound := by
    intro cursor last ahead values sees _ accepted
    obtain ⟨given, moved, listed, checked⟩ := bind_accepted.mp accepted
    obtain ⟨words, rest, rfl, seen, derived⟩ := reads.sound sees trivial listed
    cases given with
    | nil => exact (reject_accepted.mp checked).elim
    | cons value others =>
      obtain ⟨rfl, rfl⟩ := pure_accepted.mp checked
      exact ⟨words, rest, rfl, seen, .intro derived⟩
  complete := by
    intro cursor words rest trees sees derived ended
    obtain ⟨given⟩ := derived
    obtain ⟨values, last, accepted, seen, same⟩ := reads.complete sees given ended
    cases values with
    | nil => cases same
    | cons value others => exact ⟨value :: others, last, accepted_bind accepted rfl, seen, same⟩

/-- Items between separators. The one in front is passed if it is there, so an item must
not begin with it. -/
theorem separated_reads {separator : TokenKind}
    (reads : Reads item view phrase Anywhere (NextNot []))
    (begins : BeginsWith kinds phrase) (tells : separator ∉ kinds)
    (proper : separator ≠ .endOfInput) :
    Reads (separated separator item) (List.map view) (Separated separator phrase) Anywhere
      (NextNot [separator]) := by
  have behindReads : Reads (do let _ ← advance; item) view (Behind separator phrase)
      (fun ahead => decide (nextKind ahead = separator) = true) (NextNot []) := by
    constructor
    · intro cursor last ahead value sees starts accepted
      simp only [bind_accepted, advance_accepted] at accepted
      obtain ⟨_, _, ⟨rfl, rfl⟩, given⟩ := accepted
      obtain ⟨spelling, rest, rfl⟩ := exists_of_nextKind (of_decide_eq_true starts) proper
      obtain ⟨words, rest, rfl, seen, derived⟩ := reads.sound sees.advance trivial given
      exact ⟨(separator, spelling) :: words, rest, rfl, seen, .intro (.intro spelling) derived⟩
    · intro cursor words rest tree sees derived _
      obtain ⟨marked, given⟩ := derived
      obtain ⟨spelling⟩ := marked
      obtain ⟨value, last, accepted, seen, same⟩ :=
        reads.complete sees.advance given (nextNot_nil _)
      exact ⟨value, last, accepted_bind rfl accepted, seen, same⟩
  have behindBegins : BeginsWith [separator] (Behind separator phrase) := by
    rintro words tree ⟨⟨spelling⟩, -⟩
    exact ⟨(separator, spelling), _, rfl, List.mem_singleton_self _⟩
  constructor
  · intro cursor last ahead values sees _ accepted
    simp only [separated, bind_accepted, accept_accepted, pure_accepted] at accepted
    obtain ⟨_, start, leading, value, moved, first, others, _, looped, rfl, rfl⟩ := accepted
    -- Whether or not a separator stands in front, the first item begins at `start`.
    obtain ⟨lead, behindLead, rfl, starting, optional⟩ :
        ∃ lead rest, ahead = lead ++ rest ∧ start.Sees rest ∧ OptionalMark separator lead := by
      obtain ⟨matched, -, rfl⟩ | ⟨-, -, rfl⟩ := leading
      · obtain ⟨spelling, rest, rfl⟩ := exists_of_nextKind (sees.kind.symm.trans matched) proper
        exact ⟨[(separator, spelling)], rest, rfl, sees.advance, .given (.intro spelling)⟩
      · exact ⟨[], ahead, rfl, sees, .missing⟩
    obtain ⟨words, rest, rfl, moving, derived⟩ := reads.sound starting trivial first
    obtain ⟨more, rest, rfl, seen, further, -⟩ :=
      many_sound (fun kind => decide (kind = separator)) behindReads behindBegins moving looped
    exact ⟨lead ++ (words ++ more), rest, by simp, seen, .intro optional derived further⟩
  · intro cursor words rest trees sees derived ended
    obtain @⟨lead, words, others, tree, trees, leading, first, further⟩ := derived
    rw [List.append_assoc, List.append_assoc] at sees
    obtain ⟨found, start, led, starting⟩ : ∃ found start,
        accept separator cursor = .accepted found start ∧
          start.Sees (words ++ (others ++ rest)) := by
      cases leading with
      | missing =>
        have different : cursor.current.kind ≠ separator := by
          rw [sees.kind]
          intro same
          exact tells (same ▸ begins.nextKind_mem first _)
        exact ⟨false, cursor, accept_accepted.mpr (.inr ⟨different, rfl, rfl⟩), sees⟩
      | given marked =>
        obtain ⟨spelling⟩ := marked
        exact ⟨true, _, accept_accepted.mpr (.inl ⟨sees.kind, rfl, rfl⟩), sees.advance⟩
    obtain ⟨value, moved, accepted, moving, rfl⟩ := reads.complete starting first (nextNot_nil _)
    obtain ⟨values, last, looped, seen, rfl⟩ :=
      many_complete (fun kind => decide (kind = separator)) behindReads behindBegins
        (by simp) moving further (nextNot_nil _)
        (decide_eq_false (fun same => ended (List.mem_singleton.mpr same)))
    exact ⟨value :: values, last,
      accepted_bind led (accepted_bind accepted (accepted_bind looped rfl)), seen, rfl⟩

end Combined

end SchemaForge

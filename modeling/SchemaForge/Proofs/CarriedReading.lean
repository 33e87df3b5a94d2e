import SchemaForge.Proofs.PhraseReading
import SchemaForge.Proofs.ScanComposition
import SchemaForge.Proofs.SpanPlacement

/-!
# A reading carried to another place

The tokens of a document may stand elsewhere: behind some lines, so that every place is
later, and in front of another definition, so that the input does not end where the document
does. A production that accepts the document accepts it there as well, and its value is the
same but for the spans, which are carried along with the tokens.

`Placement` says where the tokens stand, `Beside` that two cursors have come equally far, and
`Carries` what is to be shown of each production. Nothing is said about a production that
rejects: in front of more tokens it may well accept. What a production sees where the first
reading ends is a string or the keyword of a definition, and neither goes on with anything.

The span of a node reaches from its first token to the last one passed, so the token passed
last is carried too. In front of a document nothing has been passed, and there only the tokens
`Ahead` correspond; behind the first token the readings are `Beside` each other. The grammar is
not mentioned here.
-/

namespace SchemaForge

variable {α β γ δ : Type}

/-- A token that a definition may begin with: its description or its keyword. -/
def Token.opensDefinition (token : Token) : Bool := token.isString || token.beginsDefinition

/-- The kinds of token that a definition may begin with. -/
def openingKinds : List TokenKind := [.name, .string, .blockString]

/-- A definition begins with a name or a string. -/
theorem Token.kind_of_opensDefinition {token : Token} (opens : token.opensDefinition = true) :
    token.kind ∈ openingKinds := by
  unfold opensDefinition beginsDefinition isNameIn isName isString at opens
  cases kind : token.kind <;> simp_all [openingKinds, TokenKind.isString]

/-- Where the tokens of a document stand: behind some lines, which are so many code points in
all, and in front of what comes then. -/
structure Placement where
  /-- The number of lines in front. -/
  lines : Nat
  /-- The number of code points in front. -/
  length : Nat
  /-- The tokens behind the document. -/
  more : List Token
  /-- The end of the whole input. -/
  finish : Token
  /-- If anything comes behind the document, a definition does. -/
  begins : ∀ token ∈ more.head?, token.opensDefinition = true
  /-- The input ends with the token for it. -/
  ended : finish.kind = .endOfInput

namespace Placement

variable (place : Placement)

/-- A token at its place. -/
def token : Token → Token := Token.shift place.lines place.length

/-- A span at its place. -/
def span : Span → Span := Span.shift place.lines place.length

/-- The second reading has the tokens of the first one ahead, at their place, and then
more. -/
structure Ahead (left right : Cursor) : Prop where
  /-- The tokens ahead are at their place, and more comes behind them. -/
  rest : right.rest = left.rest.map place.token ++ place.more
  /-- The second input ends as the placement says. -/
  finish : right.finish = place.finish
  /-- The first input ends with the token for it. -/
  ended : left.finish.kind = .endOfInput

/-- Two readings have come equally far, with the same token behind them as well. -/
structure Beside (left right : Cursor) : Prop extends place.Ahead left right where
  /-- The token passed last is at its place. -/
  previous : right.previous = place.token left.previous

/-- What the first reading accepts the second one accepts, with a value that is carried
along, and both have come equally far. -/
structure Carries (carry : α → β) (outcome : Outcome α) (other : Outcome β) : Prop where
  /-- An accepted value is accepted at its place. -/
  keeps : ∀ {value moved}, outcome = .accepted value moved →
    ∃ last, other = .accepted (carry value) last ∧ place.Beside moved last

variable {place : Placement} {left right : Cursor}

/-! ## The tokens ahead -/

namespace Ahead

/-- A token ahead of the first reading is ahead of the second one, at its place. -/
theorem current (near : place.Ahead left right) (some : left.rest ≠ []) :
    right.current = place.token left.current := by
  obtain ⟨token, tokens, ahead⟩ := List.exists_cons_of_ne_nil some
  rw [Cursor.current, Cursor.current, near.rest, ahead]
  rfl

/-- Before a token other than the end of input the first reading has not ended. -/
theorem rest_ne_nil (near : place.Ahead left right) (inside : left.current.kind ≠ .endOfInput) :
    left.rest ≠ [] := by
  intro none
  apply inside
  rw [Cursor.current, none]
  exact near.ended

/-- Where the first reading ends the second one ends too, or is in front of a definition. -/
theorem atEnd (near : place.Ahead left right) (none : left.rest = []) :
    left.current.kind = .endOfInput ∧
      (right.current.kind = .endOfInput ∨ right.current.opensDefinition = true) := by
  have begins := place.begins
  have behind : right.rest = place.more := by
    rw [near.rest, none]
    rfl
  rw [Cursor.current, Cursor.current, none, behind, near.finish]
  refine ⟨near.ended, ?_⟩
  cases tokens : place.more with
  | nil => exact .inl place.ended
  | cons token others =>
    rw [tokens] at begins
    exact .inr (begins token rfl)

/-- The second reading has as many more tokens ahead as come behind the document. -/
theorem length (near : place.Ahead left right) :
    right.rest.length = left.rest.length + place.more.length := by
  rw [near.rest, List.length_append, List.length_map]

/-- Both readings pass a token, and from then on it is behind both. -/
theorem advance (near : place.Ahead left right) (some : left.rest ≠ []) :
    place.Beside left.advance right.advance := by
  obtain ⟨token, tokens, ahead⟩ := List.exists_cons_of_ne_nil some
  have aheadRight : right.rest = place.token token :: (tokens.map place.token ++ place.more) := by
    rw [near.rest, ahead]
    rfl
  unfold Cursor.advance
  rw [ahead, aheadRight]
  exact ⟨⟨rfl, near.finish, near.ended⟩, rfl⟩

/-- A test of the kind has one answer, if it takes what begins a definition for the end of
input. -/
theorem test_eq (near : place.Ahead left right) (test : TokenKind → Bool)
    (agrees : ∀ kind ∈ openingKinds, test kind = test .endOfInput) :
    test right.current.kind = test left.current.kind := by
  by_cases none : left.rest = []
  · obtain ⟨ended, finished | opens⟩ := near.atEnd none
    · rw [ended, finished]
    · rw [ended, agrees _ (Token.kind_of_opensDefinition opens)]
  · rw [near.current none]
    rfl

/-- Whether one of some words is next has one answer, if none of them begins a definition. -/
theorem isNameIn_eq (near : place.Ahead left right) {names : List Text} (some : names ≠ [])
    (foreign : ∀ name ∈ names, name ∉ definitionKeywords) :
    right.current.isNameIn names = left.current.isNameIn names := by
  by_cases none : left.rest = []
  · obtain ⟨ended, behind⟩ := near.atEnd none
    have absent : left.current.isNameIn names = false := by
      simp [Token.isNameIn, Token.isName, ended]
    have other : ¬ right.current.isNameIn names = true := by
      intro found
      simp only [Token.isNameIn, Token.isName, Bool.and_eq_true, decide_eq_true_eq,
        Bool.or_eq_true, List.isEmpty_iff, some, false_or, List.contains_iff_mem] at found
      obtain ⟨named, member⟩ := found
      obtain finished | opens := behind
      · exact absurd (named.symm.trans finished) (by decide)
      · simp only [Token.opensDefinition, Token.isString, Token.beginsDefinition, Token.isNameIn,
          named, TokenKind.isString, Bool.false_or, Bool.and_eq_true, Bool.or_eq_true,
          List.contains_iff_mem] at opens
        exact foreign _ member (opens.2.resolve_left (by decide))
    rw [absent, Bool.eq_false_iff]
    exact other
  · rw [near.current none]
    rfl

end Ahead

/-! ## Productions in sequence -/

section Sequences

variable {carry : α → γ} {result : β → δ}

/-- A rejection carries nothing. -/
theorem Carries.rejected {error : GrammarError} {stopped : Cursor} {other : Outcome γ} :
    place.Carries carry (.rejected error stopped) other := by
  constructor
  intro value moved accepted
  cases accepted

/-- A value is given on both sides. -/
theorem pure_carries {value : α} {other : γ} (same : other = carry value)
    (near : place.Beside left right) :
    place.Carries carry ((pure value : Production α) left) ((pure other : Production γ) right) := by
  constructor
  intro given moved accepted
  obtain ⟨rfl, rfl⟩ := Production.pure_accepted.mp accepted
  exact ⟨right, same ▸ rfl, near⟩

/-- One production behind another. -/
theorem Carries.bind {first : Production α} {other : Production γ} {next : α → Production β}
    {behind : γ → Production δ} (lead : place.Carries carry (first left) (other right))
    (rest : ∀ {value moved last}, place.Beside moved last →
      place.Carries result (next value moved) (behind (carry value) last)) :
    place.Carries result ((first >>= next) left) ((other >>= behind) right) := by
  constructor
  intro value last accepted
  obtain ⟨given, moved, read, followed⟩ := Production.bind_accepted.mp accepted
  obtain ⟨middle, readRight, near⟩ := lead.keeps read
  obtain ⟨final, followedRight, nearFinal⟩ := (rest near).keeps followed
  exact ⟨final, Production.accepted_bind readRight followedRight, nearFinal⟩

/-- A production that accepts nothing at the end is looked at before a token only. -/
theorem carries_inside {outcome : Outcome α} {other : Outcome γ}
    (needs : ∀ {value moved}, outcome = .accepted value moved → left.rest ≠ [])
    (inside : left.rest ≠ [] → place.Carries carry outcome other) :
    place.Carries carry outcome other := by
  constructor
  intro value moved accepted
  exact (inside (needs accepted)).keeps accepted

/-- A production that reads phrases with a first word accepts nothing at the end. -/
theorem rest_ne_nil_of_reads {item : Production α} {view : α → β} {phrase : Phrase β}
    {ends : List Reading → Prop} {kinds : List TokenKind} (reads : Reads item view phrase Anywhere ends)
    (begins : BeginsWith kinds phrase) (ended : left.finish.kind = .endOfInput) {value : α}
    {moved : Cursor} (accepted : item left = .accepted value moved) : left.rest ≠ [] := by
  have sees : left.Sees (left.rest.map Token.reading) := ⟨rfl, ended⟩
  obtain ⟨words, rest, same, -, derived⟩ := reads.sound sees trivial accepted
  obtain ⟨word, others, rfl, -⟩ := begins derived
  intro none
  rw [none] at same
  cases same

end Sequences

/-! ## Single tokens -/

open Production

/-- A token is passed on both sides. -/
theorem advance_carries (near : place.Ahead left right) (some : left.rest ≠ []) :
    place.Carries place.token (Production.advance left) (Production.advance right) := by
  constructor
  intro token moved accepted
  obtain ⟨rfl, rfl⟩ := advance_accepted.mp accepted
  exact ⟨_, advance_accepted.mpr ⟨near.current some, rfl⟩, near.advance some⟩

/-- The next token is looked at on both sides. -/
theorem peek_carries {carry : α → γ} {next : Token → Production α} {behind : Token → Production γ}
    (near : place.Ahead left right) (some : left.rest ≠ [])
    (rest : place.Carries carry (next left.current left)
      (behind (place.token left.current) right)) :
    place.Carries carry ((peek >>= next) left) ((peek >>= behind) right) := by
  rw [← near.current some] at rest
  exact rest

/-- A token that is wanted is there on both sides. -/
theorem expect_carries {kind : TokenKind} {fault other : GrammarFault}
    (proper : kind ≠ .endOfInput) (near : place.Beside left right) :
    place.Carries place.token (expect kind fault left) (expect kind other right) := by
  constructor
  intro token moved accepted
  obtain ⟨found, rfl, rfl⟩ := expect_accepted.mp accepted
  have some := near.rest_ne_nil (found ▸ proper)
  have foundRight : right.current.kind = kind := by
    rw [near.current some]
    exact found
  exact ⟨_, expect_accepted.mpr ⟨foundRight, near.current some, rfl⟩, near.advance some⟩

/-- A name that is wanted is there on both sides. -/
theorem expectName_carries (role : NameRole) (near : place.Beside left right) :
    place.Carries place.token (expectName role left) (expectName role right) :=
  expect_carries (by decide) near

/-- A mark is passed on both sides or on neither. -/
theorem accept_carries {kind : TokenKind} (mark : kind ∉ .endOfInput :: openingKinds)
    (near : place.Beside left right) :
    place.Carries id (accept kind left) (accept kind right) := by
  rw [List.mem_cons, not_or] at mark
  have agrees : decide (right.current.kind = kind) = decide (left.current.kind = kind) := by
    apply near.test_eq (fun ahead => decide (ahead = kind))
    intro opening member
    have unlike : opening ≠ kind := fun same => mark.2 (same ▸ member)
    simp [unlike, Ne.symm mark.1]
  rw [decide_eq_decide] at agrees
  constructor
  intro found moved accepted
  obtain ⟨here, rfl, rfl⟩ | ⟨elsewhere, rfl, rfl⟩ := accept_accepted.mp accepted
  · have some := near.rest_ne_nil (here ▸ mark.1)
    exact ⟨_, accept_accepted.mpr (.inl ⟨agrees.mpr here, rfl, rfl⟩), near.advance some⟩
  · exact ⟨_, accept_accepted.mpr (.inr ⟨mt agrees.mp elsewhere, rfl, rfl⟩), near⟩

/-- A span is carried with its first token and the one passed last. -/
theorem spanFrom_carries (first : Token) (near : place.Beside left right) :
    place.Carries place.span (spanFrom first left) (spanFrom (place.token first) right) := by
  constructor
  intro span moved accepted
  obtain ⟨rfl, rfl⟩ := spanFrom_accepted.mp accepted
  refine ⟨_, spanFrom_accepted.mpr ⟨?_, rfl⟩, near⟩
  simp [Cursor.spanFrom, near.previous, token, Placement.span, Token.shift, Span.shift,
    Nat.add_max_add_right]

/-- A word that is next on both sides, or on neither, and is no keyword of a definition. -/
theorem word_carries {carry : α → γ} {names : List Text} (some : names ≠ [])
    (foreign : ∀ name ∈ names, name ∉ definitionKeywords) {given : Token → Production α}
    {other : Token → Production γ} {otherwise : Production α} {instead : Production γ}
    (near : place.Beside left right)
    (found : left.rest ≠ [] →
      place.Carries carry (given left.current left) (other (place.token left.current) right))
    (absent : place.Carries carry (otherwise left) (instead right)) :
    place.Carries carry
      ((do
        let token ← peek
        if token.isNameIn names then given token else otherwise : Production α) left)
      ((do
        let token ← peek
        if token.isNameIn names then other token else instead : Production γ) right) := by
  have agrees := near.isNameIn_eq some foreign
  change place.Carries carry
    ((if left.current.isNameIn names then given left.current else otherwise) left)
    ((if right.current.isNameIn names then other right.current else instead) right)
  rw [agrees]
  by_cases next : left.current.isNameIn names = true
  · have named : left.current.kind = .name := by
      simp only [Token.isNameIn, Token.isName, Bool.and_eq_true, decide_eq_true_eq] at next
      exact next.1
    have inside := near.rest_ne_nil (by rw [named]; decide)
    rw [if_pos next, if_pos next, near.current inside]
    exact found inside
  · rw [if_neg next, if_neg next]
    exact absent

/-! ## Loops -/

section Loops

variable {carry : α → γ}

/-- Items are read on both sides for as long as the next token allows one more. By induction
on the tokens ahead; both loops stop at the same item, because both have passed the same
number of tokens. -/
theorem collect_carries (test : TokenKind → Bool)
    (agrees : ∀ kind ∈ openingKinds, test kind = test .endOfInput) {limit bound : Nat}
    {item : (cursor : Cursor) → cursor.rest.length < limit → Outcome α}
    {other : (cursor : Cursor) → cursor.rest.length < bound → Outcome γ}
    (items : ∀ {left right} (within : left.rest.length < limit)
      (inside : right.rest.length < bound), place.Beside left right →
        test left.current.kind = true → place.Carries carry (item left within) (other right inside))
    (within : left.rest.length < limit) (inside : right.rest.length < bound)
    (near : place.Beside left right) :
    place.Carries (List.map carry)
      (collect (fun token => test token.kind) limit item left within)
      (collect (fun token => test token.kind) bound other right inside) := by
  induction size : left.rest.length using Nat.strongRecOn generalizing left right with
  | ind size inductionHypothesis =>
    have asked := near.test_eq test agrees
    constructor
    intro values final accepted
    unfold collect at accepted ⊢
    by_cases continues : test left.current.kind = true
    · rw [if_pos continues] at accepted
      rw [if_pos (asked.trans continues)]
      cases read : item left within with
      | rejected error stopped => simp [read] at accepted
      | accepted value moved =>
        obtain ⟨last, readRight, behind⟩ := (items within inside near continues).keeps read
        have fewerIff : last.rest.length < right.rest.length ↔
            moved.rest.length < left.rest.length := by
          rw [behind.length, near.length]
          omega
        simp only [read] at accepted
        simp only [readRight]
        by_cases fewer : moved.rest.length < left.rest.length
        · simp only [fewer, ↓reduceDIte] at accepted
          simp only [fewerIff.mpr fewer, ↓reduceDIte]
          cases looped : collect (fun token => test token.kind) limit item moved
              (Nat.lt_trans fewer within) with
          | rejected error stopped => simp [looped] at accepted
          | accepted others stop =>
            have rest := inductionHypothesis _ (size ▸ fewer) (Nat.lt_trans fewer within)
              (Nat.lt_trans (fewerIff.mpr fewer) inside) behind rfl
            obtain ⟨stopRight, loopedRight, nearStop⟩ := rest.keeps looped
            simp only [looped] at accepted
            cases accepted
            simp only [loopedRight]
            exact ⟨stopRight, rfl, nearStop⟩
        · simp only [fewer, ↓reduceDIte] at accepted
          simp only [mt fewerIff.mp fewer, ↓reduceDIte]
          cases accepted
          exact ⟨last, rfl, behind⟩
    · rw [if_neg continues] at accepted
      rw [if_neg (asked ▸ continues)]
      cases accepted
      exact ⟨right, rfl, near⟩

/-- Items up to a closing mark and then the mark are read on both sides, and so is what comes
behind. That the loop comes to the mark is what the reading of phrases says about it. -/
theorem collectUntil_carries {closer : TokenKind} (mark : closer ∉ .endOfInput :: openingKinds)
    {limit bound : Nat} {item : (cursor : Cursor) → cursor.rest.length < limit → Outcome α}
    {other : (cursor : Cursor) → cursor.rest.length < bound → Outcome γ} {view : α → β}
    {phrase : Phrase β} {ends : List Reading → Prop} {kinds : List TokenKind}
    (reads : ReadsWithin limit item view phrase (fun _ => true) ends)
    (begins : BeginsWith kinds phrase)
    (items : ∀ {left right} (within : left.rest.length < limit)
      (inside : right.rest.length < bound), place.Beside left right →
        place.Carries carry (item left within) (other right inside))
    (within : left.rest.length < limit) (inside : right.rest.length < bound)
    (near : place.Beside left right) {ε ζ : Type} {result : ε → ζ} {next : List α → Production ε}
    {behind : List γ → Production ζ}
    (rest : ∀ {values moved last}, place.Beside moved last →
      place.Carries result (next values moved) (behind (values.map carry) last)) :
    place.Carries result
      ((do
        let values ← fun _ => collect (fun token => decide (token.kind ≠ closer)) limit item left
          within
        let _ ← Production.advance
        next values : Production ε) left)
      ((do
        let others ← fun _ => collect (fun token => decide (token.kind ≠ closer)) bound other right
          inside
        let _ ← Production.advance
        behind others : Production ζ) right) := by
  rw [List.mem_cons, not_or] at mark
  have agrees : ∀ kind ∈ openingKinds,
      decide (kind ≠ closer) = decide (TokenKind.endOfInput ≠ closer) := by
    intro kind member
    have unlike : kind ≠ closer := fun same => mark.2 (same ▸ member)
    simp [unlike, Ne.symm mark.1]
  have loop := collect_carries (fun kind => decide (kind ≠ closer)) agrees
    (fun within inside near _ => items within inside near) within inside near
  constructor
  intro value final accepted
  obtain ⟨values, stop, looped, followed⟩ := bind_accepted.mp accepted
  obtain ⟨stopRight, loopedRight, nearStop⟩ := loop.keeps looped
  have stopped : stop.current.kind = closer := collectUntil_stops reads begins near.ended looped
  have some := nearStop.rest_ne_nil (stopped ▸ mark.1)
  have following : place.Carries result
      ((do let _ ← Production.advance; next values : Production ε) stop)
      ((do let _ ← Production.advance; behind (values.map carry) : Production ζ) stopRight) :=
    (advance_carries nearStop.toAhead some).bind (fun near => rest near)
  obtain ⟨last, followedRight, nearLast⟩ := following.keeps followed
  exact ⟨last, accepted_bind loopedRight followedRight, nearLast⟩

variable {item : Production α} {other : Production γ}

/-- Items that a mark announces are read on both sides. -/
theorem many_carries {mark : TokenKind} (proper : mark ∉ .endOfInput :: openingKinds)
    (items : ∀ {left right}, place.Beside left right → left.current.kind = mark →
      place.Carries carry (item left) (other right)) (near : place.Beside left right) :
    place.Carries (List.map carry) (many (fun token => decide (token.kind = mark)) item left)
      (many (fun token => decide (token.kind = mark)) other right) := by
  rw [List.mem_cons, not_or] at proper
  refine collect_carries (fun kind => decide (kind = mark)) ?_
    (fun _ _ near found => items near (of_decide_eq_true found)) _ _ near
  intro kind member
  have unlike : kind ≠ mark := fun same => proper.2 (same ▸ member)
  simp [unlike, Ne.symm proper.1]

/-- Items up to a closing mark are read together with the mark on both sides. -/
theorem manyUntil_carries {closer : TokenKind} (mark : closer ∉ .endOfInput :: openingKinds)
    {view : α → β} {phrase : Phrase β} {ends : List Reading → Prop} {kinds : List TokenKind}
    (reads : Reads item view phrase Anywhere ends) (begins : BeginsWith kinds phrase)
    (items : ∀ {left right}, place.Beside left right →
      place.Carries carry (item left) (other right)) (near : place.Beside left right) :
    place.Carries (List.map carry) (manyUntil closer item left) (manyUntil closer other right) := by
  have within : ReadsWithin (left.rest.length + 1) (fun inner _ => item inner) view phrase
      (fun _ => true) ends :=
    ⟨fun _ sees _ => reads.sound sees trivial, fun _ sees => reads.complete sees⟩
  exact collectUntil_carries mark within begins (fun _ _ => items) _ _ near
    (fun near => pure_carries rfl near)

/-- Items between marks are read on both sides. -/
theorem separated_carries {separator : TokenKind}
    (mark : separator ∉ .endOfInput :: openingKinds)
    (items : ∀ {left right}, place.Beside left right →
      place.Carries carry (item left) (other right)) (near : place.Beside left right) :
    place.Carries (List.map carry) (separated separator item left)
      (separated separator other right) := by
  have further : ∀ {left right}, place.Beside left right → left.current.kind = separator →
      place.Carries carry ((do let _ ← Production.advance; item : Production α) left)
        ((do let _ ← Production.advance; other : Production γ) right) := by
    intro left right near found
    have unlike : separator ≠ .endOfInput := fun same => mark (same ▸ List.mem_cons_self)
    have some := near.rest_ne_nil (found ▸ unlike)
    exact (advance_carries near.toAhead some).bind (fun near => items near)
  refine (accept_carries mark near).bind ?_
  intro _ _ _ near
  refine (items near).bind ?_
  intro first _ _ near
  refine (many_carries mark further near).bind ?_
  intro others _ _ near
  exact pure_carries rfl near

end Loops

end Placement

end SchemaForge

import SchemaForge.Proofs.ErrorLocality

/-!
# Layout and comments are insignificant

Ignored code points, or a comment up to the end of its line, may be put in front of a text,
behind it or between any two of its tokens. The text is then the same sequence of words, and
so it is the same document up to spans, or it is refused with the same errors up to places.

Only a comment goes on with what is put behind it. It takes in what stands before the first
line end, and what is left is ignored. Every other lexeme ends where it ended before: no
ignored code point and no number sign is taken for more of it.

The words decide what is read. Two readings of the same words are compared definition by
definition, as a text and its moved copy are, and here they never part.
-/

namespace SchemaForge

/-! ## What is inserted -/

/-- Text that says nothing: ignored code points, or one comment with the line feed that
ends it. -/
inductive Insignificant : Text → Prop where
  | ignored {text : Text} (all : ∀ c ∈ text, c.isIgnored = true) : Insignificant text
  | comment {body : Text} (line : ∀ c ∈ body, c.endsComment = false) :
      Insignificant (CodePoint.ofChar '#' :: (body ++ [.lineFeed]))

/-- A code point that stands between lexemes is an ignored one or begins a comment. -/
def CodePoint.Parts (c : CodePoint) : Prop := c.isIgnored = true ∨ c = '#'

namespace Insignificant

variable {inserted : Text}

/-- Insignificant text begins with a code point that stands between lexemes. -/
theorem head_parts (layout : Insignificant inserted) : ∀ c ∈ inserted.head?, c.Parts := by
  intro c first
  cases layout with
  | ignored all => exact .inl (all c (List.mem_of_mem_head? first))
  | comment line =>
    obtain rfl := Option.some.inj first
    exact .inr rfl

/-- What a comment leaves of insignificant text is ignored. -/
theorem left_ignored (layout : Insignificant inserted) :
    ∀ c ∈ inserted.dropWhile (fun c => !c.endsComment), c.isIgnored = true := by
  intro c member
  cases layout with
  | ignored all => exact all c (List.dropWhile_sublist _ |>.subset member)
  | @comment body line =>
    have run : ∀ c ∈ CodePoint.ofChar '#' :: body, (!c.endsComment) = true := by
      intro d inside
      obtain rfl | inside := List.mem_cons.mp inside
      · rfl
      · rw [line d inside]
        rfl
    rw [← List.cons_append, List.dropWhile_append_of_pos run] at member
    obtain rfl := List.mem_singleton.mp member
    rfl

end Insignificant

/-- What stands between lexemes is none of a name or a number, nor a quote. -/
theorem CodePoint.Parts.foreign {c : CodePoint} (parts : c.Parts) :
    c.isNameRest = false ∧ c ≠ '.' ∧ c ≠ .quote := by
  simp only [Parts, isIgnored, Bool.or_eq_true, decide_eq_true_eq] at parts
  obtain (((((rfl | rfl) | rfl) | rfl) | rfl) | mark) | rfl := parts
  case inl.inr =>
    obtain rfl : CodePoint.ofNat 0xFEFF = c := mark ▸ dif_pos c.valid
    decide
  all_goals decide

/-- What stands between lexemes is no more of a lexeme, unless that is a comment. -/
theorem Lexeme.goesOn_parts {lexeme : Lexeme} (other : lexeme.kind ≠ .comment) {c : CodePoint}
    (parts : c.Parts) : lexeme.goesOn c = false := by
  obtain ⟨rest, point, quote⟩ := parts.foreign
  unfold goesOn
  split
  · next comment => exact absurd comment other
  · exact rest
  · simp [Number.goesOn, rest, point]
  · simp [Number.goesOn, rest, point]
  · simp [quote]
  · rfl

/-! ## Scanning what is inserted -/

/-- The words of tokens, one token at a time. -/
theorem wordsOf_cons (token : Token) (tokens : List Token) :
    wordsOf (token :: tokens) =
      if token.kind = .comment then wordsOf tokens else token.reading :: wordsOf tokens := by
  unfold wordsOf
  split
  · next comment => rw [List.filter_cons_of_neg (by simpa using comment)]
  · next other => rw [List.filter_cons_of_pos (by simpa using other), List.map_cons]

/-- The last word is the end of input. -/
theorem wordsOf_finish (body : List Token) (place : Position) :
    wordsOf (body ++ [Token.finish place]) = wordsOf body ++ [(.endOfInput, [])] := by
  unfold wordsOf
  rw [List.filter_append, List.map_append]
  rfl

/-- A text that is a sequence of tokens, of which only the words are looked at. -/
def Spells (text : Text) (words : List Reading) : Prop :=
  ∀ place, ∃ tokens, scan place text = .ok tokens ∧ wordsOf tokens = words

/-- The words of one lexeme in front of others. -/
def Lexeme.wordsBefore (lexeme : Lexeme) (words : List Reading) : List Reading :=
  if lexeme.kind = .comment then words else (lexeme.kind, lexeme.value) :: words

namespace Spells

variable {text : Text} {words : List Reading}

/-- An ignored code point adds no word. -/
theorem ignored {c : CodePoint} (ignored : c.isIgnored = true) (spells : Spells text words) :
    Spells (c :: text) words := by
  intro place
  rw [scan, if_pos ignored]
  exact spells (place.step c)

/-- Nor do some of them. -/
theorem allIgnored {gap : Text} (all : ∀ c ∈ gap, c.isIgnored = true)
    (spells : Spells text words) : Spells (gap ++ text) words := by
  induction gap with
  | nil => exact spells
  | cons c gap inductionHypothesis =>
    exact ignored (all c List.mem_cons_self)
      (inductionHypothesis (fun d member => all d (List.mem_cons_of_mem c member)))

/-- A lexeme adds its word, unless it is a comment. -/
theorem lexeme {c : CodePoint} {lexeme : Lexeme} (significant : ¬ c.isIgnored = true)
    (found : Lexeme.read c text = .ok lexeme) (spells : Spells lexeme.rest words) :
    Spells (c :: text) (lexeme.wordsBefore words) := by
  intro place
  obtain ⟨tokens, scanned, same⟩ := spells (place.through lexeme.raw)
  refine ⟨Token.ofLexeme place lexeme :: tokens, ?_, ?_⟩
  · rw [scan_lexeme place significant found, scanned]
    rfl
  · rw [wordsOf_cons, same]
    rfl

/-- A comment adds no word, and what it leaves begins at a line end. -/
theorem comment {body : Text} (line : ∀ c ∈ body, (!c.endsComment) = true)
    (spells : Spells (text.dropWhile (fun c => !c.endsComment)) words) :
    Spells (CodePoint.ofChar '#' :: (body ++ text)) words := by
  have left : (Lexeme.comment '#' (body ++ text)).rest =
      text.dropWhile (fun c => !c.endsComment) := List.dropWhile_append_of_pos line
  exact lexeme (by decide) (Lexeme.read_iff.mpr (.comment rfl)) (left ▸ spells)

/-- Insignificant text adds no word. -/
theorem insignificant {inserted : Text} (layout : Insignificant inserted)
    (spells : Spells text words) : Spells (inserted ++ text) words := by
  cases layout with
  | ignored all => exact allIgnored all spells
  | @comment body line =>
    have run : ∀ c ∈ body, (!c.endsComment) = true := fun c inside => by simp [line c inside]
    rw [List.cons_append, List.append_assoc]
    exact comment run (ignored (by decide) spells)

end Spells

/-- The words of a text do not depend on where it stands. -/
theorem scan_spells {place : Position} {text : Text} {tokens : List Token}
    (scanned : scan place text = .ok tokens) : Spells text (wordsOf tokens) := by
  fun_induction scan place text generalizing tokens with
  | case1 place =>
    cases scanned
    intro other
    exact ⟨[Token.finish other], scan.eq_1 other, rfl⟩
  | case2 place c rest ignored inductionHypothesis =>
    exact (inductionHypothesis scanned).ignored ignored
  | case3 => cases scanned
  | case4 => cases scanned
  | case5 place c rest significant lexeme found _ later read inductionHypothesis =>
    cases scanned
    rw [wordsOf_cons]
    exact (inductionHypothesis read).lexeme significant found

/-- Behind insignificant text a comment has taken in its beginning. -/
theorem Halts.dropWhile_behind {test : CodePoint → Bool} {back : Text} (halts : Halts test back)
    (front : Text) : (front ++ back).dropWhile test = front.dropWhile test ++ back := by
  have stays : back.dropWhile test = back := halts.dropWhile_append []
  rw [List.dropWhile_append, stays]
  split
  · next none => rw [List.isEmpty_iff.mp none, List.nil_append]
  · rfl

/-- A lexeme that is a comment is one behind a number sign. -/
theorem Lexeme.eq_comment {c : CodePoint} {rest : Text} {lexeme : Lexeme}
    (found : read c rest = .ok lexeme) (kind : lexeme.kind = .comment) :
    c = '#' ∧ lexeme = comment '#' rest := by
  obtain ⟨-, spells⟩ := read_spells found
  rw [kind] at spells
  have sign : c = '#' := by
    have raw := (cons_raw_tail found).trans spells
    exact (List.cons.inj raw).1
  subst sign
  exact ⟨rfl, Except.ok.inj (found.symm.trans (read_iff.mpr (.comment rfl)))⟩

/-- A comment takes in the beginning of insignificant text behind it. -/
theorem Spells.commentBefore {c : CodePoint} {rest inserted : Text} {lexeme : Lexeme}
    {words : List Reading} (layout : Insignificant inserted)
    (found : Lexeme.read c rest = .ok lexeme) (kind : lexeme.kind = .comment)
    (behind : Spells lexeme.rest words) :
    Spells (lexeme.raw ++ (inserted ++ lexeme.rest)) words := by
  obtain ⟨rfl, rfl⟩ := Lexeme.eq_comment found kind
  have halts : Halts (fun c => !c.endsComment) (Lexeme.comment '#' rest).rest :=
    Lexeme.read_halts found
  have line := List.all_eq_true.mp (List.all_takeWhile (p := fun c => !c.endsComment) (l := rest))
  refine comment line ?_
  rw [halts.dropWhile_behind]
  exact allIgnored layout.left_ignored behind

/-- Insignificant text is no more of a lexeme, unless it follows a comment directly. -/
theorem Lexeme.halts_inserted {c : CodePoint} {rest front back inserted : Text} {lexeme : Lexeme}
    (layout : Insignificant inserted) (found : read c rest = .ok lexeme)
    (split : lexeme.rest = front ++ back) (apart : lexeme.kind ≠ .comment ∨ front ≠ []) :
    Halts lexeme.goesOn (front ++ (inserted ++ back)) := by
  have halts := read_halts found
  rw [split] at halts
  cases front with
  | cons d front => exact .cons (halts d rfl)
  | nil =>
    have other := apart.resolve_right (fun some => some rfl)
    have between : Halts lexeme.goesOn inserted :=
      fun d first => goesOn_parts other (layout.head_parts d first)
    exact between.append halts

/-- A scan that succeeds in front of a lexeme has read it and gone on behind it. -/
theorem scan_lexeme_inv {place : Position} {c : CodePoint} {rest : Text} {tokens : List Token}
    (significant : ¬ c.isIgnored = true) (scanned : scan place (c :: rest) = .ok tokens) :
    ∃ lexeme later, Lexeme.read c rest = .ok lexeme ∧
      scan (place.through lexeme.raw) lexeme.rest = .ok later ∧
      tokens = Token.ofLexeme place lexeme :: later := by
  cases found : Lexeme.read c rest with
  | error fault =>
    rw [scan, if_neg significant] at scanned
    split at scanned
    · cases scanned
    · next same => cases found.symm.trans same
  | ok lexeme =>
    rw [scan_lexeme place significant found] at scanned
    cases read : scan (place.through lexeme.raw) lexeme.rest with
    | error error => simp [read, Except.map] at scanned
    | ok later =>
      rw [read] at scanned
      exact ⟨lexeme, later, rfl, read, (Except.ok.inj scanned).symm⟩

/-- A lexeme adds its word in front of an insertion as before. Where the insertion follows it
directly, a comment takes in the beginning of it. -/
theorem Spells.lexemeBefore {c : CodePoint} {rest front back inserted : Text} {lexeme : Lexeme}
    {words : List Reading} (layout : Insignificant inserted) (significant : ¬ c.isIgnored = true)
    (found : Lexeme.read c rest = .ok lexeme) (split : lexeme.rest = front ++ back)
    (here : Spells lexeme.rest words) (behind : Spells (front ++ (inserted ++ back)) words) :
    Spells (lexeme.raw ++ (front ++ (inserted ++ back))) (lexeme.wordsBefore words) := by
  by_cases absorbs : lexeme.kind = .comment ∧ front = []
  · obtain ⟨kind, rfl⟩ := absorbs
    obtain rfl : lexeme.rest = back := split
    rw [Lexeme.wordsBefore, if_pos kind]
    exact commentBefore layout found kind here
  · have halts := Lexeme.halts_inserted layout found split (Decidable.not_and_iff_or_not.mp absorbs)
    have spells := Spells.lexeme significant (Lexeme.read_followedBy found halts) behind
    rwa [← List.cons_append, Lexeme.cons_raw_tail found] at spells

/-- A token that is not cut at an offset inside the text it begins lies in front of it. -/
theorem Lexeme.raw_in_front {c : CodePoint} {front back : Text} {lexeme : Lexeme}
    (found : read c (front ++ back) = .ok lexeme)
    (uncut : lexeme.raw.length ≤ (c :: front).length) :
    ∃ remaining, c :: front = lexeme.raw ++ remaining ∧ lexeme.rest = remaining ++ back := by
  have splits : lexeme.raw ++ lexeme.rest = (c :: front) ++ back := raw_append_rest found
  obtain ⟨remaining, inFront, behind⟩ | ⟨excess, raw, behind⟩ := List.append_eq_append_iff.mp splits
  · exact ⟨remaining, inFront, behind⟩
  · have none : excess = [] := by
      rw [raw, List.length_append] at uncut
      exact List.eq_nil_of_length_eq_zero (by omega)
    subst none
    exact ⟨[], by simp [raw], by simp [behind]⟩

/-- A text with insignificant text put where no token is cut has the same words. The induction
is on the length of the text in front of the insertion, lexeme by lexeme. -/
theorem scan_inserted {place : Position} {front back inserted : Text} {tokens : List Token}
    (layout : Insignificant inserted) (scanned : scan place (front ++ back) = .ok tokens)
    (uncut : ∀ token ∈ tokens,
      ¬ (token.start < place.offset + front.length ∧ place.offset + front.length < token.stop)) :
    Spells (front ++ (inserted ++ back)) (wordsOf tokens) := by
  induction size : front.length using Nat.strongRecOn generalizing front place tokens with
  | ind length inductionHypothesis =>
    subst size
    cases front with
    | nil =>
      rw [List.nil_append] at scanned ⊢
      exact Spells.insignificant layout (scan_spells scanned)
    | cons c front =>
      by_cases ignored : c.isIgnored = true
      · rw [List.cons_append, scan, if_pos ignored] at scanned
        have offset : (place.step c).offset + front.length =
            place.offset + (c :: front).length := by
          unfold Position.step
          split <;> simp only [List.length_cons] <;> omega
        refine (inductionHypothesis _ (Nat.lt_succ_self _) scanned ?_ rfl).ignored ignored
        rw [offset]
        exact uncut
      · obtain ⟨lexeme, later, found, read, rfl⟩ := scan_lexeme_inv ignored scanned
        have inFront : lexeme.raw.length ≤ (c :: front).length := by
          have head := uncut _ List.mem_cons_self
          simp only [Token.ofLexeme, List.length_cons] at head ⊢
          omega
        obtain ⟨remaining, splitFront, split⟩ := Lexeme.raw_in_front found inFront
        have spelled := List.length_pos_iff.mpr (Lexeme.raw_ne_nil found)
        have length := congrArg List.length splitFront
        rw [List.length_append] at length
        have offset : (place.through lexeme.raw).offset + remaining.length =
            place.offset + (c :: front).length := by
          rw [(place.through_offset_line lexeme.raw).1, length, Nat.add_assoc]
        have here := scan_spells read
        rw [split] at read
        have behind := inductionHypothesis _ (by omega) read
          (fun token member => offset ▸ uncut token (List.mem_cons_of_mem _ member)) rfl
        rw [wordsOf_cons, splitFront, List.append_assoc]
        exact Spells.lexemeBefore layout ignored found split here behind

/-! ## Reading the same words -/

/-- Two readings have the same words ahead, with the same brackets open. -/
structure SameWords (left right : Cursor) : Prop where
  /-- The words ahead are the same. -/
  rest : left.rest.map Token.reading = right.rest.map Token.reading
  /-- The ends of input read the same. -/
  finish : left.finish.reading = right.finish.reading
  /-- The same brackets are open. -/
  depth : right.depth = left.depth
  /-- The input ends with the token for it. -/
  ended : left.finish.kind = .endOfInput

namespace SameWords

variable {left right : Cursor}

/-- The next tokens read the same. -/
theorem current (near : SameWords left right) :
    left.current.reading = right.current.reading := by
  have heads := congrArg (fun words => words.headD left.finish.reading) near.rest
  rw [near.finish] at heads
  have next (cursor : Cursor) : cursor.current.reading =
      (cursor.rest.map Token.reading).headD cursor.finish.reading := by
    unfold Cursor.current
    cases cursor.rest <;> rfl
  rw [next, next, near.finish]
  exact heads

/-- The second input ends with the token for it. -/
theorem endedRight (near : SameWords left right) : right.finish.kind = .endOfInput :=
  (congrArg Prod.fst near.finish).symm.trans near.ended

/-- Both readings pass a word. -/
theorem advance (near : SameWords left right) : SameWords left.advance right.advance where
  rest := by
    rw [Cursor.advance_rest, Cursor.advance_rest, List.map_tail, List.map_tail, near.rest]
  finish := by rw [Cursor.advance_finish, Cursor.advance_finish, near.finish]
  depth := by
    have kind : left.current.kind = right.current.kind := congrArg Prod.fst near.current
    rw [Cursor.advance_depth near.endedRight, Cursor.advance_depth near.ended, near.depth, kind]
  ended := by rw [Cursor.advance_finish, near.ended]

end SameWords

/-- A reading beside one of the same words at other places. -/
def Comparison.words : Comparison where
  cursors := SameWords
  tokens token other := token.reading = other.reading
  parted _ := False
  excess := 0
  reading same := same
  finish near := ⟨near.ended, near.endedRight⟩
  length near := by simpa using (congrArg List.length near.rest).symm
  ahead near := .inl near.current
  advance near _ := near.advance
  parted_rest := rest_of_never
  parted_depth := depth_of_never
  extension _ _ := ⟨id, fun _ => id⟩

/-- The readings of the same words end together. -/
theorem Comparison.words_steady : Comparison.words.Steady where
  depth near := SameWords.depth near
  stops near _ none := by
    have same := SameWords.rest near
    rw [none] at same
    exact List.map_eq_nil_iff.mp same.symm

/-! ## The same document -/

/-- What a report of an error says without its place: the message, what was found, and the
kinds of token that would have been accepted. -/
def GrammarError.report (error : GrammarError) : Text × Reading × List TokenKind :=
  (error.message, error.found.reading, error.fault.expected)

/-- Two texts are the same document up to spans, or they are refused with the same errors up
to places. -/
inductive SameDocument :
    Except DocumentError (List Definition) → Except DocumentError (List Definition) → Prop where
  | accepted {definitions others : List Definition}
      (same : definitions.map Definition.withoutSpans = others.map Definition.withoutSpans) :
      SameDocument (.ok definitions) (.ok others)
  | refused {first other : GrammarError} {further more : List GrammarError}
      (same : (first :: further).map GrammarError.report =
        (other :: more).map GrammarError.report) :
      SameDocument (.error (.grammatical first further)) (.error (.grammatical other more))

/-- The report of an error is decided by its fault and by the word found. -/
theorem GrammarError.report_eq {error other : GrammarError}
    (same : error.unplaced = other.unplaced) : error.report = other.report := by
  obtain ⟨fault, token⟩ := error
  obtain ⟨_, found⟩ := other
  obtain ⟨rfl, reading⟩ := Prod.mk.inj same
  obtain ⟨kind, value⟩ := Prod.mk.inj reading
  have message : fault.message token = fault.message found := by
    unfold GrammarFault.message
    rw [kind, value]
  unfold report GrammarError.message
  rw [message, reading]

/-- Errors with the same faults at the same words are reported alike. -/
theorem reports_eq {errors others : List GrammarError}
    (same : errors.map GrammarError.unplaced = others.map GrammarError.unplaced) :
    errors.map GrammarError.report = others.map GrammarError.report := by
  induction errors generalizing others with
  | nil =>
    obtain rfl := List.map_eq_nil_iff.mp same.symm
    rfl
  | cons error errors inductionHypothesis =>
    cases others with
    | nil => cases same
    | cons other others =>
      obtain ⟨first, further⟩ := List.cons.inj same
      rw [List.map_cons, List.map_cons, GrammarError.report_eq first, inductionHypothesis further]

/-- Tokens with the same words are the same document. -/
theorem definitionsOfTokens_sameDocument {body others : List Token} {finish last : Token}
    (ended : finish.kind = .endOfInput) (ends : finish.reading = last.reading)
    (words : wordsOf body = wordsOf others) :
    SameDocument (definitionsOfTokens (body ++ [finish]))
      (definitionsOfTokens (others ++ [last])) := by
  have near : SameWords (Cursor.ofTokens body finish) (Cursor.ofTokens others last) :=
    ⟨words, ends, rfl, ended⟩
  obtain ⟨definitions, errors⟩ := Comparison.words_steady.document (fun _ => id) near
  simp only [definitionsOfTokens, List.dropLast_concat, List.getLastD_concat]
  unfold Same at definitions errors
  cases found : (DocumentReading.ofCursor (Cursor.ofTokens body finish)).errors with
  | nil =>
    rw [found] at errors
    rw [List.map_eq_nil_iff.mp errors.symm]
    exact .accepted definitions
  | cons first further =>
    rw [found] at errors
    cases foundOther : (DocumentReading.ofCursor (Cursor.ofTokens others last)).errors with
    | nil =>
      rw [foundOther] at errors
      cases errors
    | cons other more => exact .refused (reports_eq (foundOther ▸ errors))

/-- Layout and comments are insignificant. A text with ignored code points or a comment put
where no token is cut is a sequence of tokens with the same words, and it is the same document
up to spans or is refused with the same errors up to places. -/
theorem parseDocument_inserted {front back inserted : Text} {tokens : List Token}
    (layout : Insignificant inserted) (scanned : tokenize (front ++ back) = .ok tokens)
    (uncut : ∀ token ∈ tokens, ¬ (token.start < front.length ∧ front.length < token.stop)) :
    (∃ others, tokenize (front ++ (inserted ++ back)) = .ok others ∧
      wordsOf others = wordsOf tokens) ∧
    SameDocument (parseDocument (front ++ back)) (parseDocument (front ++ (inserted ++ back))) := by
  have start : Position.origin.offset + front.length = front.length := Nat.zero_add _
  obtain ⟨others, scannedOther, words⟩ :=
    scan_inserted layout scanned (start.symm ▸ uncut) .origin
  refine ⟨⟨others, scannedOther, words⟩, ?_⟩
  obtain ⟨body, rfl⟩ := scan_ends scanned
  obtain ⟨bodyOther, rfl⟩ := scan_ends scannedOther
  rw [wordsOf_finish, wordsOf_finish] at words
  unfold parseDocument
  rw [scanned, show tokenize _ = _ from scannedOther]
  exact definitionsOfTokens_sameDocument rfl rfl (List.append_cancel_right words).symm

/-- A comment and its line feed directly behind another comment, in a text that is refused. The
comment that stood there takes in the one that is put behind it. -/
theorem parseDocument_inserted_behindComment :
    (∃ others,
      tokenize (("enum A \x7b true #x" : Text) ++ (("#y\n" : Text) ++ ("\n\x7d" : Text))) =
          .ok others ∧
        wordsOf others = ([(.name, "enum"), (.name, "A"), (.leftBrace, "\x7b"), (.name, "true"),
          (.rightBrace, "\x7d"), (.endOfInput, "")] : List Reading)) ∧
    SameDocument (parseDocument (("enum A \x7b true #x" : Text) ++ ("\n\x7d" : Text)))
      (parseDocument
        (("enum A \x7b true #x" : Text) ++ (("#y\n" : Text) ++ ("\n\x7d" : Text)))) := by
  have scanned : tokenize (("enum A \x7b true #x" : Text) ++ ("\n\x7d" : Text)) = .ok
      [⟨.name, "enum", 1, 1, 0, 4⟩, ⟨.name, "A", 1, 6, 5, 6⟩, ⟨.leftBrace, "\x7b", 1, 8, 7, 8⟩,
        ⟨.name, "true", 1, 10, 9, 13⟩, ⟨.comment, "x", 1, 15, 14, 16⟩,
        ⟨.rightBrace, "\x7d", 2, 1, 17, 18⟩, ⟨.endOfInput, "", 2, 2, 18, 18⟩] := by cbv
  have body : ∀ c ∈ ("y" : Text), c.endsComment = false := by decide
  exact parseDocument_inserted (.comment body) scanned (by decide)

end SchemaForge

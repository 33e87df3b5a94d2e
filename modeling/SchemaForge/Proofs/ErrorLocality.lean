import SchemaForge.Proofs.DocumentRecovery
import SchemaForge.Proofs.ScanComposition

/-!
# Errors stay local

A document that is refused is refused with the same errors when another document follows on
the next line, and the errors of the second document come behind them at their later places.

The proof compares two pairs of readings. The first text alone is compared with the two texts
together: they part where the first text ends, and by then every error of the first text has
been found. Behind it the reading of both texts is compared with the reading of the second
text alone, which stands at other places and does not part from it at all.

Three things are asked of the first text. Its errors are not found at its end, where more text
may well repair what is missing. Its brackets are closed, because recovery looks for the next
definition outside of brackets only. And it does not end inside of an extension: that is
refused up to two words behind its beginning, and recovery passes one token more.
-/

namespace SchemaForge

/-! ## The first text alone and in front of more -/

/-- The tokens that are no comments. These are what a document is read from. -/
def meaningful (tokens : List Token) : List Token :=
  tokens.filter (fun token => decide (token.kind ≠ .comment))

/-- The number of brackets open behind some tokens. -/
def depthOver (depth : Nat) (tokens : List Token) : Nat :=
  tokens.foldl (fun depth token => depthAfter depth token.kind) depth

/-- Comments open and close no brackets. -/
theorem depthOver_meaningful (depth : Nat) (tokens : List Token) :
    depthOver depth (meaningful tokens) = depthOver depth tokens := by
  induction tokens generalizing depth with
  | nil => rfl
  | cons token tokens inductionHypothesis =>
    by_cases comment : token.kind = .comment
    · rw [meaningful, List.filter_cons_of_neg (by simp [comment])]
      refine (inductionHypothesis depth).trans ?_
      change _ = depthOver (depthAfter depth token.kind) tokens
      rw [comment]
      rfl
    · rw [meaningful, List.filter_cons_of_pos (by simp [comment])]
      exact inductionHypothesis _

/-- The word that begins an extension. -/
def extensionWord : Reading := (.name, ("extend" : Text))

/-- Words that do not end inside of an extension: neither behind the word that begins it nor
behind the name after that. -/
structure ClearOfExtension (words : List Reading) : Prop where
  /-- The word that extends is not the last one. -/
  keyword : ¬ [extensionWord] <:+ words
  /-- Nor is it the last one but a name. -/
  named : ∀ name, ¬ [extensionWord, (.name, name)] <:+ words

/-- What comes behind a word is as clear. -/
theorem ClearOfExtension.tail {word : Reading} {words : List Reading}
    (clear : ClearOfExtension (word :: words)) : ClearOfExtension words :=
  ⟨fun ends => clear.keyword (ends.trans (List.suffix_cons word words)),
    fun name ends => clear.named name (ends.trans (List.suffix_cons word words))⟩

/-- Tokens of which the first one begins a definition. -/
def BeginsDefinitions (tokens : List Token) : Prop :=
  ∃ token others, tokens = token :: others ∧ token.beginsDefinition = true

/-- The second reading has the tokens of the first one ahead and then more, and the first one
comes to its end outside of brackets and extensions. -/
structure Continued (more : List Token) (last : Token) (left right : Cursor) : Prop where
  /-- More tokens come behind the same ones. -/
  rest : right.rest = left.rest ++ more
  /-- The second input ends later. -/
  finish : right.finish = last
  /-- The same brackets are open. -/
  depth : right.depth = left.depth
  /-- The first input ends with the token for it. -/
  ended : left.finish.kind = .endOfInput
  /-- The brackets are closed at the end. -/
  closed : depthOver left.depth left.rest = 0
  /-- No extension is open at the end. -/
  clear : ClearOfExtension (left.rest.map Token.reading)

namespace Continued

variable {more : List Token} {last : Token} {left right : Cursor}

/-- Tokens ahead of the first reading are ahead of the second one. -/
theorem together (near : Continued more last left right) (some : left.rest ≠ []) :
    left.current = right.current := by
  obtain ⟨token, tokens, ahead⟩ := List.exists_cons_of_ne_nil some
  rw [Cursor.current, Cursor.current, near.rest, ahead]
  rfl

/-- At the end of the first reading the second one is in front of a definition. -/
theorem begins (near : Continued more last left right) (definitions : BeginsDefinitions more)
    (none : left.rest = []) : right.current.beginsDefinition = true := by
  obtain ⟨token, others, rfl, begins⟩ := definitions
  rw [Cursor.current, near.rest, none]
  exact begins

/-- Readings before the same token are not at the end of the first one. -/
theorem rest_ne_nil (near : Continued more last left right) (definitions : BeginsDefinitions more)
    (same : left.current = right.current) : left.rest ≠ [] := by
  intro none
  have named := Comparison.kind_of_beginsDefinition (near.begins definitions none)
  have ended := near.ended
  rw [← same, Cursor.current, none] at named
  exact absurd (ended.symm.trans named) (by decide)

/-- Both readings pass the same token. -/
theorem advance (near : Continued more last left right) (some : left.rest ≠ []) :
    Continued more last left.advance right.advance := by
  obtain ⟨token, tokens, ahead⟩ := List.exists_cons_of_ne_nil some
  have aheadRight : right.rest = token :: (tokens ++ more) := by
    rw [near.rest, ahead]
    rfl
  have closed := near.closed
  have clear := near.clear
  rw [ahead] at closed clear
  unfold Cursor.advance
  rw [ahead, aheadRight]
  exact ⟨rfl, near.finish, congrArg (depthAfter · token.kind) near.depth, near.ended, closed,
    clear.tail⟩

/-- The first reading does not end behind the word that extends. -/
theorem behind_keyword (near : Continued more last left right)
    (word : left.current.reading = extensionWord) : left.advance.rest ≠ [] := by
  intro none
  have clear := near.clear
  rw [Cursor.advance_rest] at none
  cases ahead : left.rest with
  | nil =>
    rw [Cursor.current, ahead] at word
    exact absurd (near.ended.symm.trans (congrArg Prod.fst word)) (by decide)
  | cons token tokens =>
    rw [ahead] at none clear
    rw [Cursor.current, ahead] at word
    obtain rfl : tokens = [] := none
    refine clear.keyword ?_
    rw [← word]
    exact List.suffix_refl _

/-- The first reading does not end behind a name that is extended. -/
theorem behind_name (near : Continued more last left right)
    (word : left.current.reading = extensionWord) (name : left.advance.current.kind = .name) :
    left.advance.advance.rest ≠ [] := by
  intro none
  have clear := near.clear
  obtain ⟨given, others, behind⟩ := List.exists_cons_of_ne_nil (near.behind_keyword word)
  rw [Cursor.advance_rest, behind] at none
  obtain rfl : others = [] := none
  rw [Cursor.current, behind] at name
  rw [Cursor.advance_rest] at behind
  cases ahead : left.rest with
  | nil => simp [ahead] at behind
  | cons token tokens =>
    rw [ahead] at clear behind
    rw [Cursor.current, ahead] at word
    obtain rfl : tokens = [given] := behind
    refine clear.named given.value ?_
    rw [← word, ← (name : given.kind = .name)]
    exact List.suffix_refl _

end Continued

/-- A reading beside one that goes on with further definitions. -/
def Comparison.continued {more : List Token} {last : Token} (ended : last.kind = .endOfInput)
    (definitions : BeginsDefinitions more) : Comparison where
  cursors := Continued more last
  tokens := Eq
  parted left := left.rest = [] ∧ left.depth = 0 ∧ left.finish.kind = .endOfInput
  excess := more.length
  reading := reading_of_same
  finish near := ⟨near.ended, by rw [near.finish]; exact ended⟩
  length near := by rw [near.rest, List.length_append]
  ahead := by
    intro left right near
    by_cases none : left.rest = []
    · have closed := near.closed
      rw [none] at closed
      exact .inr ⟨⟨none, closed, near.ended⟩, near.begins definitions none⟩
    · exact .inl (near.together none)
  advance near same := near.advance (near.rest_ne_nil definitions same)
  parted_rest parted := parted.1
  parted_depth parted := parted.2.1
  extension near word :=
    ⟨fun parted => near.behind_keyword word parted.1,
      fun name parted => near.behind_name word name parted.1⟩

/-- The tokens are carried over as they are. -/
theorem Comparison.continued_carries {more : List Token} {last : Token}
    (ended : last.kind = .endOfInput) (definitions : BeginsDefinitions more) :
    (continued ended definitions).Carries id where
  moves same := Eq.symm same
  depth near := Continued.depth near
  stops near same none := absurd none (Continued.rest_ne_nil near definitions same)

/-! ## The second text alone and behind the first one -/

/-- The second reading has the tokens of the first one ahead, at other places. -/
structure Moved (move : Token → Token) (left right : Cursor) : Prop where
  /-- The tokens ahead are moved. -/
  rest : right.rest = left.rest.map move
  /-- The end of input is moved. -/
  finish : right.finish = move left.finish
  /-- The same brackets are open. -/
  depth : right.depth = left.depth
  /-- The input ends with the token for it. -/
  ended : left.finish.kind = .endOfInput

section Places

variable {move : Token → Token} (keeps : ∀ token, (move token).reading = token.reading)

namespace Moved

variable {left right : Cursor}

/-- The next token is moved too. -/
theorem current (near : Moved move left right) : right.current = move left.current := by
  rw [Cursor.current, Cursor.current, near.rest, near.finish]
  cases left.rest <;> rfl

include keeps in
/-- The second input ends with the token for it. -/
theorem endedRight (near : Moved move left right) : right.finish.kind = .endOfInput := by
  rw [near.finish, ← near.ended]
  exact congrArg Prod.fst (keeps _)

include keeps in
/-- Both readings pass a token, and it opens or closes the same bracket. -/
theorem advance (near : Moved move left right) : Moved move left.advance right.advance where
  rest := by rw [Cursor.advance_rest, Cursor.advance_rest, near.rest, List.map_tail]
  finish := by rw [Cursor.advance_finish, Cursor.advance_finish, near.finish]
  depth := by
    have kind : (move left.current).kind = left.current.kind := congrArg Prod.fst (keeps _)
    rw [Cursor.advance_depth (near.endedRight keeps), Cursor.advance_depth near.ended, near.depth,
      near.current, kind]
  ended := by rw [Cursor.advance_finish, near.ended]

end Moved

/-- A reading beside one of the same tokens at other places. -/
def Comparison.moved : Comparison where
  cursors := Moved move
  tokens token other := other = move token
  parted _ := False
  excess := 0
  reading := by
    rintro token _ rfl
    exact (keeps token).symm
  finish near := ⟨near.ended, near.endedRight keeps⟩
  length near := by
    rw [near.rest, List.length_map]
    rfl
  ahead near := .inl near.current
  advance near _ := near.advance keeps
  parted_rest := rest_of_never
  parted_depth := depth_of_never
  extension _ _ := ⟨id, fun _ => id⟩

/-- The tokens are carried over to their places. -/
theorem Comparison.moved_carries : (Comparison.moved keeps).Carries move where
  moves same := same
  depth near := Moved.depth near
  stops near _ none := by
    rw [Moved.rest near, none]
    rfl

include keeps in
/-- Comments are left out before or after the tokens are moved. -/
theorem meaningful_map (tokens : List Token) :
    meaningful (tokens.map move) = (meaningful tokens).map move := by
  have kinds token : (move token).kind = token.kind := congrArg Prod.fst (keeps token)
  rw [meaningful, List.filter_map]
  congr 2
  funext token
  exact congrArg (fun kind => decide (kind ≠ TokenKind.comment)) (kinds token)

include keeps in
/-- Definitions begin as before at other places. -/
theorem BeginsDefinitions.map {tokens : List Token} (definitions : BeginsDefinitions tokens) :
    BeginsDefinitions (tokens.map move) := by
  obtain ⟨token, others, rfl, begins⟩ := definitions
  refine ⟨move token, others.map move, rfl, ?_⟩
  rw [← begins]
  exact Token.beginsDefinition_eq (keeps token)

open DocumentReading

include keeps in
/-- The errors of two lists of tokens, one behind the other. -/
theorem errors_append {body more : List Token} {finish last : Token}
    (ended : finish.kind = .endOfInput) (endedLast : last.kind = .endOfInput)
    (inside : ∀ error ∈ (ofCursor (Cursor.ofTokens body finish)).errors,
      error.found.kind ≠ .endOfInput)
    (closed : depthOver 0 body = 0) (clear : ClearOfExtension (wordsOf body))
    (definitions : BeginsDefinitions (meaningful more)) :
    (ofCursor (Cursor.ofTokens (body ++ more.map move) (move last))).errors =
      (ofCursor (Cursor.ofTokens body finish)).errors ++
        (ofCursor (Cursor.ofTokens more last)).errors.map (GrammarError.moved move) := by
  have near : Continued ((meaningful more).map move) (move last)
      (Cursor.ofTokens body finish) (Cursor.ofTokens (body ++ more.map move) (move last)) := by
    refine ⟨?_, rfl, rfl, ended, (depthOver_meaningful 0 body).trans closed, clear⟩
    rw [← meaningful_map keeps]
    exact List.filter_append _ _
  have endedMoved : (move last).kind = .endOfInput :=
    (congrArg Prod.fst (keeps last)).trans endedLast
  -- Up to the end of the first list: what is left then is the second one, outside of brackets.
  obtain ⟨done, behind, atEnd, none, first⟩ :=
    (Comparison.continued_carries endedMoved (definitions.map keeps)).errors near (by
      intro error member cursor ⟨finished, _, kind⟩ found
      refine inside error member ?_
      rw [found, Cursor.current, finished]
      exact kind)
  have atEnd : Continued _ _ done behind := atEnd
  have second : Moved move (Cursor.ofTokens more last) behind := by
    have flat := atEnd.closed
    rw [none] at flat
    exact ⟨by rw [atEnd.rest, none]; rfl, atEnd.finish, atEnd.depth.trans flat, endedLast⟩
  -- From there to the end of the second list, which is the end of both.
  obtain ⟨done, behind, atLast, none, others⟩ :=
    (Comparison.moved_carries keeps).errors second (fun _ _ _ parted => parted.elim)
  have finished : behind.rest = [] := by
    rw [Moved.rest atLast, none]
    rfl
  rw [first, others, ofCursor_finished finished]
  change List.map id _ ++ (_ ++ []) = _
  rw [List.map_id, List.append_nil]

end Places

/-! ## Two texts -/

/-- A token behind some lines reads as before. -/
theorem Token.shift_reading (lines length : Nat) (token : Token) :
    (token.shift lines length).reading = token.reading := rfl

/-- The errors of grammar that a text is refused with; there are none if it is read. -/
def grammarErrors (text : Text) : List GrammarError :=
  match parseDocument text with
  | .error (.grammatical first others) => first :: others
  | .error (.lexical _) => []
  | .ok _ => []

/-- A text with errors of grammar is refused with them. -/
theorem parseDocument_eq_grammatical {text : Text} {first : GrammarError}
    {others : List GrammarError} :
    parseDocument text = .error (.grammatical first others) ↔
      grammarErrors text = first :: others := by
  unfold grammarErrors
  split <;> simp_all

/-- The errors of a text are those of the reading of its tokens. -/
theorem grammarErrors_eq {text : Text} {body : List Token} {finish : Token}
    (scanned : tokenize text = .ok (body ++ [finish])) :
    grammarErrors text = (DocumentReading.ofCursor (Cursor.ofTokens body finish)).errors := by
  unfold grammarErrors parseDocument
  rw [scanned]
  simp only [definitionsOfTokens, List.dropLast_concat, List.getLastD_concat]
  cases (DocumentReading.ofCursor (Cursor.ofTokens body finish)).errors <;> rfl

/-- The end of input closes no bracket. -/
theorem depthOver_body {depth : Nat} {body : List Token} {finish : Token}
    (ended : finish.kind = .endOfInput) (closed : depthOver depth (body ++ [finish]) = 0) :
    depthOver depth body = 0 := by
  rw [depthOver, List.foldl_append, List.foldl_cons, List.foldl_nil, ended] at closed
  exact closed

/-- Tokens that begin with a definition do so without the end of input. -/
theorem BeginsDefinitions.body {body : List Token} {finish : Token}
    (ended : finish.kind = .endOfInput)
    (definitions : BeginsDefinitions (meaningful (body ++ [finish]))) :
    BeginsDefinitions (meaningful body) := by
  obtain ⟨token, others, same, begins⟩ := definitions
  rw [meaningful, List.filter_append, ← meaningful] at same
  cases words : meaningful body with
  | cons first further =>
    rw [words] at same
    obtain ⟨rfl, -⟩ := List.cons.inj same
    exact ⟨_, further, rfl, begins⟩
  | nil =>
    rw [words, List.filter_cons_of_pos (by simp [ended])] at same
    obtain ⟨rfl, -⟩ := List.cons.inj same
    exact absurd (ended.symm.trans (Comparison.kind_of_beginsDefinition begins)) (by decide)

/-- A text that is refused keeps its errors when another text follows on the next line, and
the errors of the other text come behind them, later by the lines and the code points in
front. It is asked that the errors of the first text are not found at its end, that its
brackets are closed, that it does not end inside of an extension, and that the other text
begins with the keyword of a definition. -/
theorem parseDocument_errorsLocal {text more : Text} {tokens others : List Token}
    {first : GrammarError} {further : List GrammarError} (scanned : tokenize text = .ok tokens)
    (scannedMore : tokenize more = .ok others)
    (refused : parseDocument text = .error (.grammatical first further))
    (inside : ∀ error ∈ first :: further, error.found.kind ≠ .endOfInput)
    (closed : depthOver 0 tokens = 0) (clear : ClearOfExtension (wordsOf tokens.dropLast))
    (definitions : BeginsDefinitions (meaningful others)) :
    parseDocument (text ++ .lineFeed :: more) =
      .error (.grammatical first (further ++ (grammarErrors more).map (GrammarError.moved
        (Token.shift (text.count .lineFeed + 1) (text.length + 1))))) := by
  obtain ⟨body, rfl⟩ := scan_ends scanned
  obtain ⟨bodyMore, rfl⟩ := scan_ends scannedMore
  have together := tokenize_lines scanned scannedMore
  rw [List.map_append, List.dropLast_concat, ← List.append_assoc] at together
  rw [parseDocument_eq_grammatical] at refused ⊢
  rw [grammarErrors_eq scanned] at refused
  rw [List.dropLast_concat] at clear
  rw [grammarErrors_eq together, grammarErrors_eq scannedMore]
  refine (errors_append (Token.shift_reading _ _) rfl rfl (refused ▸ inside)
    (depthOver_body rfl closed) clear (definitions.body rfl)).trans ?_
  rw [refused, List.cons_append]

/-- An extension and a reserved value, in front of a union whose members are missed at the end
of its text. -/
theorem parseDocument_errorsLocal_extension :
    parseDocument
      (("extend type A # old\nenum B { true }" : Text) ++ .lineFeed :: ("union C =" : Text)) =
      .error (.grammatical ⟨.extensionUnsupported, ⟨.name, "extend", 1, 1, 0, 6⟩⟩
        [⟨.reservedEnumValue, ⟨.name, "true", 2, 10, 29, 33⟩⟩,
          ⟨.expectedName .type, ⟨.endOfInput, "", 3, 10, 45, 45⟩⟩]) := by
  have scanned : tokenize ("extend type A # old\nenum B { true }" : Text) = .ok
      [⟨.name, "extend", 1, 1, 0, 6⟩, ⟨.name, "type", 1, 8, 7, 11⟩, ⟨.name, "A", 1, 13, 12, 13⟩,
        ⟨.comment, " old", 1, 15, 14, 19⟩, ⟨.name, "enum", 2, 1, 20, 24⟩,
        ⟨.name, "B", 2, 6, 25, 26⟩, ⟨.leftBrace, "\x7b", 2, 8, 27, 28⟩,
        ⟨.name, "true", 2, 10, 29, 33⟩, ⟨.rightBrace, "\x7d", 2, 15, 34, 35⟩,
        ⟨.endOfInput, "", 2, 16, 35, 35⟩] := by cbv
  have scannedMore : tokenize ("union C =" : Text) = .ok
      [⟨.name, "union", 1, 1, 0, 5⟩, ⟨.name, "C", 1, 7, 6, 7⟩, ⟨.equals, "=", 1, 9, 8, 9⟩,
        ⟨.endOfInput, "", 1, 10, 9, 9⟩] := by cbv
  have refused : parseDocument ("extend type A # old\nenum B { true }" : Text) =
      .error (.grammatical ⟨.extensionUnsupported, ⟨.name, "extend", 1, 1, 0, 6⟩⟩
        [⟨.reservedEnumValue, ⟨.name, "true", 2, 10, 29, 33⟩⟩]) :=
    parseDocument_eq_grammatical.mpr (by decide +kernel)
  have errors : grammarErrors ("union C =" : Text) =
      [⟨.expectedName .type, ⟨.endOfInput, "", 1, 10, 9, 9⟩⟩] := by decide +kernel
  have clear : ClearOfExtension [(.name, "extend"), (.name, "type"), (.name, "A"),
      (.name, "enum"), (.name, "B"), (.leftBrace, "\x7b"), (.name, "true"),
      (.rightBrace, "\x7d")] := by
    refine ⟨by decide, ?_⟩
    rintro name ⟨front, same⟩
    have last := congrArg List.getLast? same
    simp at last
  have stays := parseDocument_errorsLocal scanned scannedMore refused (by decide) rfl clear
    ⟨_, _, rfl, rfl⟩
  rw [errors] at stays
  exact stays

end SchemaForge

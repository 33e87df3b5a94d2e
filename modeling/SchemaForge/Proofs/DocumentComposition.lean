import SchemaForge.Proofs.CarriedGrammar
import SchemaForge.Proofs.ErrorLocality

/-!
# Documents one behind the other

Two documents on successive lines are one document: its definitions are those of the first
and then those of the second, at their later places. Nothing at the end of the first document
reaches into the second one, and nothing of the second one is taken for a part of the first.

The tokens of both texts are read in two stretches. Over the first one the reading of both
goes along with that of the first text alone; it is carried by no distance and has the second
text behind it. From where the first text ends it goes along with the reading of the second
text alone, which is carried by the lines in front and has nothing behind it.

A text that is refused is of no concern here: what is missing at its end may follow.
-/

namespace SchemaForge

/-! ## What a document begins with -/

/-- A definition begins with a string or with its keyword. -/
theorem DefinitionPhrase.opens {words : List Reading} {tree : Definition}
    (derived : DefinitionPhrase words tree) :
    ∃ word others, words = word :: others ∧
      (word.1.isString = true ∨ word.1 = .name ∧ word.2 ∈ definitionKeywords) := by
  obtain ⟨described, body⟩ := derived
  cases described with
  | missing =>
    obtain ⟨others, same⟩ := body.startsWith []
    rw [List.append_nil] at same
    refine ⟨_, others, same, .inr ⟨rfl, ?_⟩⟩
    cases tree <;> simp [Definition.keyword, definitionKeywords]
  | given quoted => exact ⟨_, _, rfl, .inl quoted⟩

namespace DocumentReading

/-- A document without errors begins with a definition, if with anything. -/
theorem opens {cursor : Cursor} (ended : cursor.finish.kind = .endOfInput)
    (fine : (ofCursor cursor).errors = []) :
    ∀ token ∈ cursor.rest.head?, token.opensDefinition = true := by
  have sees : cursor.Sees (cursor.rest.map Token.reading) := ⟨rfl, ended⟩
  have derived := ofCursor_sound sees fine
  intro token first
  obtain ⟨tokens, ahead⟩ := List.head?_eq_some_iff.mp first
  rw [ahead] at derived
  generalize (ofCursor cursor).definitions.map Definition.withoutSpans = trees at derived
  generalize words : (token :: tokens).map Token.reading = spelled at derived
  cases derived with
  | none => cases words
  | more definition further =>
    obtain ⟨word, others, rfl, opening⟩ := definition.opens
    obtain ⟨rfl, -⟩ := List.cons.inj words
    obtain quoted | ⟨named, keyword⟩ := opening
    · exact Bool.or_eq_true_iff.mpr (.inl quoted)
    · have named : token.kind = .name := named
      have keyword : token.value ∈ definitionKeywords := keyword
      simp [Token.opensDefinition, Token.beginsDefinition, Token.isNameIn, Token.isName, named,
        keyword]

end DocumentReading

/-! ## Tokens one behind the other -/

open DocumentReading

/-- A document without errors is read at its place, definition by definition, and then what
comes behind it is read. By induction on the tokens ahead. -/
theorem Placement.document_carries {place : Placement} {left right : Cursor}
    (near : place.Ahead left right) (fine : (ofCursor left).errors = []) :
    ∃ last, last.rest = place.more ∧ last.finish = place.finish ∧
      ofCursor right =
        ⟨(ofCursor left).definitions.map (Definition.mapSpans place.span) ++
          (ofCursor last).definitions, (ofCursor last).errors⟩ := by
  induction size : left.rest.length using Nat.strongRecOn generalizing left right with
  | ind size inductionHypothesis =>
    have endedRight : right.finish.kind = .endOfInput := near.finish ▸ place.ended
    by_cases none : left.rest = []
    · refine ⟨right, ?_, near.finish, ?_⟩
      · rw [near.rest, none]
        rfl
      · rw [ofCursor_finished none]
        rfl
    cases read : Grammar.definition left with
    | rejected error stopped =>
      rw [ofCursor_rejected near.ended none read] at fine
      cases fine
    | accepted value moved =>
      obtain ⟨behind, readRight, beside⟩ := (definition_carries near none).keeps read
      rw [ofCursor_accepted near.ended read] at fine ⊢
      rw [ofCursor_accepted endedRight readRight]
      obtain ⟨last, rest, finish, same⟩ := inductionHypothesis _
        (size ▸ definition_passes near.ended read) beside.toAhead fine rfl
      refine ⟨last, rest, finish, ?_⟩
      rw [same]
      rfl

/-- Two lists of tokens, each of which is a document, are one behind the other a document
again. -/
theorem ofTokens_append (lines length : Nat) {body more : List Token} {finish last : Token}
    (ended : finish.kind = .endOfInput) (endedLast : last.kind = .endOfInput)
    (fine : (ofCursor (Cursor.ofTokens body finish)).errors = [])
    (fineMore : (ofCursor (Cursor.ofTokens more last)).errors = []) :
    ofCursor (Cursor.ofTokens (body ++ more.map (Token.shift lines length))
        (last.shift lines length)) =
      ⟨(ofCursor (Cursor.ofTokens body finish)).definitions ++
        (ofCursor (Cursor.ofTokens more last)).definitions.map
          (Definition.mapSpans (Span.shift lines length)), []⟩ := by
  have moved : meaningful (more.map (Token.shift lines length)) =
      (meaningful more).map (Token.shift lines length) := 
    meaningful_map (Token.shift_reading lines length) more
  have opensMore : ∀ token ∈ ((meaningful more).map (Token.shift lines length)).head?,
      token.opensDefinition = true := by
    intro token first
    rw [List.head?_map, Option.mem_def, Option.map_eq_some_iff] at first
    obtain ⟨other, first, rfl⟩ := first
    exact opens endedLast fineMore other first
  -- The first stretch: nothing is in front, and the second document comes behind.
  let here : Placement :=
    ⟨0, 0, (meaningful more).map (Token.shift lines length), last.shift lines length, opensMore,
      endedLast⟩
  have nearHere : here.Ahead (Cursor.ofTokens body finish) (Cursor.ofTokens
      (body ++ more.map (Token.shift lines length)) (last.shift lines length)) := by
    refine ⟨?_, rfl, ended⟩
    change meaningful (body ++ more.map (Token.shift lines length)) =
      (meaningful body).map id ++ (meaningful more).map (Token.shift lines length)
    rw [List.map_id, ← moved]
    exact List.filter_append _ _
  obtain ⟨middle, restMiddle, finishMiddle, first⟩ := here.document_carries nearHere fine
  -- The second stretch: so many lines are in front, and nothing comes behind.
  let there : Placement :=
    ⟨lines, length, [], last.shift lines length, (fun _ none => nomatch none), endedLast⟩
  have nearThere : there.Ahead (Cursor.ofTokens more last) middle := by
    refine ⟨?_, finishMiddle, endedLast⟩
    rw [restMiddle]
    exact (List.append_nil _).symm
  obtain ⟨done, restDone, -, second⟩ := there.document_carries nearThere fineMore
  have unmoved : Definition.mapSpans here.span = id := Definition.mapSpans_id
  rw [first, second, ofCursor_finished restDone, unmoved, List.map_id]
  change (⟨_ ++ (_ ++ []), []⟩ : DocumentReading) = _
  rw [List.append_nil]
  rfl

/-! ## Texts one behind the other -/

/-- A text is a document if its tokens are read without errors. -/
theorem parseDocument_eq_ok {text : Text} {definitions : List Definition} :
    parseDocument text = .ok definitions ↔
      ∃ body, tokenize text = .ok (body ++ [Token.finish (Position.origin.through text)]) ∧
        ofCursor (Cursor.ofTokens body (Token.finish (Position.origin.through text))) =
          ⟨definitions, []⟩ := by
  unfold parseDocument
  constructor
  · intro parsed
    cases scanned : tokenize text with
    | error error => simp [scanned] at parsed
    | ok tokens =>
      simp only [scanned] at parsed
      obtain ⟨body, rfl⟩ := scan_ends scanned
      obtain ⟨fine, rfl⟩ := definitionsOfTokens_eq_ok.mp parsed
      exact ⟨body, rfl, by rw [← fine]⟩
  · rintro ⟨body, scanned, read⟩
    simp only [scanned]
    refine definitionsOfTokens_eq_ok.mpr ?_
    rw [read]
    exact ⟨rfl, rfl⟩

/-- Two schema texts on successive lines are one schema text: its definitions are those of the
first and then those of the second, whose offsets are later by the length of the first text and
the line feed, and whose lines are later by the line feeds in front. -/
theorem parseDocument_composes {text more : Text} {definitions others : List Definition}
    (first : parseDocument text = .ok definitions) (second : parseDocument more = .ok others) :
    parseDocument (text ++ .lineFeed :: more) =
      .ok (definitions ++ others.map (Definition.mapSpans
        (Span.shift (text.count .lineFeed + 1) (text.length + 1)))) := by
  obtain ⟨body, scanned, read⟩ := parseDocument_eq_ok.mp first
  obtain ⟨bodyMore, scannedMore, readMore⟩ := parseDocument_eq_ok.mp second
  have together := tokenize_lines scanned scannedMore
  rw [List.map_append, List.dropLast_concat, ← List.append_assoc] at together
  unfold parseDocument
  simp only [together]
  refine definitionsOfTokens_eq_ok.mpr ?_
  have composed := ofTokens_append (text.count .lineFeed + 1) (text.length + 1) rfl rfl
    (congrArg DocumentReading.errors read) (congrArg DocumentReading.errors readMore)
  rw [read, readMore] at composed
  rw [composed]
  exact ⟨rfl, rfl⟩

/-- The members of a union and a comment at the end of one text, and a description in front of
the other. -/
theorem parseDocument_composes_described :
    parseDocument
      (("union A =\n  B # last" : Text) ++ .lineFeed :: ("\"C\" scalar D @e" : Text)) =
      .ok [.union ⟨"A", [⟨"B", ⟨12, 13, 2, 3⟩⟩], [], none, ⟨0, 13, 1, 1⟩⟩,
        .scalar ⟨"D", [⟨"e", [], ⟨34, 36, 3, 14⟩⟩], some "C", ⟨21, 36, 3, 1⟩⟩] := by
  have first : parseDocument ("union A =\n  B # last" : Text) =
      .ok [.union ⟨"A", [⟨"B", ⟨12, 13, 2, 3⟩⟩], [], none, ⟨0, 13, 1, 1⟩⟩] := by
    with_unfolding_all rfl
  have scanned : tokenize ("\"C\" scalar D @e" : Text) = .ok
      [⟨.string, "C", 1, 1, 0, 3⟩, ⟨.name, "scalar", 1, 5, 4, 10⟩, ⟨.name, "D", 1, 12, 11, 12⟩,
        ⟨.at, "@", 1, 14, 13, 14⟩, ⟨.name, "e", 1, 15, 14, 15⟩,
        ⟨.endOfInput, "", 1, 16, 15, 15⟩] := by cbv
  have second : parseDocument ("\"C\" scalar D @e" : Text) =
      .ok [.scalar ⟨"D", [⟨"e", [], ⟨13, 15, 1, 14⟩⟩], some "C", ⟨0, 15, 1, 1⟩⟩] := by
    rw [parseDocument, scanned]
    with_unfolding_all rfl
  exact parseDocument_composes first second

end SchemaForge

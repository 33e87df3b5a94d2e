import SchemaForge.Proofs.EntryOrder
import SchemaForge.Proofs.LayoutRemoval
import SchemaForge.Proofs.NamedDefinitions
import SchemaForge.Proofs.NodeSpans
import SchemaForge.Proofs.QuotedStrings

/-!
# Types as they are written

A type reference is written with a bracket on either side of a list and a mark behind what has no
null value. Scanned and parsed again, what is written is the type: a name ends where a bracket, a
mark or a blank comes, whatever it spells, and the marks follow the wrappers from the inside out.
Only a mark behind another one would be too many for the grammar.

In the other direction, a type of a parsed text is written as the text has it between the ends of
its span, but without the layout that stands between its tokens.

Both directions go through the words of a type, which are its tokens without their places.
-/

namespace SchemaForge

/-! ## Names and marks -/

namespace Lexeme

variable {c d : CodePoint} {rest : Text} {kind : TokenKind} {lexeme : Lexeme}

/-- A punctuator is significant, and it is no comment and no string. -/
theorem punctuator_significant (mark : TokenKind.ofPunctuator? c = some kind) :
    ¬ c.Parts ∧ kind ≠ .comment ∧ kind.isString = false := by
  have marks : ∀ entry ∈ punctuators, ¬ (CodePoint.ofNat entry.1).isIgnored = true ∧
      entry.2 ≠ .comment ∧ entry.2.isString = false := by decide
  obtain ⟨ignored, kinds⟩ := marks _ (punctuator_mem mark)
  have same : CodePoint.ofNat c.val = c := dif_pos c.valid
  exact ⟨not_or.mpr ⟨same ▸ ignored, (other_of_punctuator mark).1⟩, kinds⟩

/-- There is one punctuator of each kind. -/
theorem punctuator_unique (mark : TokenKind.ofPunctuator? c = some kind)
    (other : TokenKind.ofPunctuator? d = some kind) : c = d := by
  have marks : ∀ entry ∈ punctuators, ∀ further ∈ punctuators, entry.2 = further.2 →
      entry.1 = further.1 := by decide
  exact CodePoint.val_inj.mp (marks _ (punctuator_mem mark) _ (punctuator_mem other) rfl)

/-- A lexeme of the kind of a punctuator says the punctuator. -/
theorem read_mark (accepted : read c rest = .ok lexeme)
    (mark : TokenKind.ofPunctuator? d = some lexeme.kind) : lexeme.value = [d] := by
  have listed := punctuator_mem mark
  cases read_iff.mp accepted with
  | punctuator own => rw [punctuator_unique own mark]
  | number begins found =>
    obtain ⟨kind | kind, -⟩ := number_kind found <;> simp [kind, punctuators] at listed
  | _ => simp [punctuators, comment, name] at listed

end Lexeme

namespace Solid

/-- A name has no layout in it. -/
theorem ofName {name : Text} (named : name.isName = true) : Solid (.name, name) := by
  simp only [Text.isName, Bool.and_eq_true, List.all_eq_true] at named
  refine ⟨rfl, ?_⟩
  intro c member parts
  have foreign := parts.foreign.1
  rw [named.2 c member] at foreign
  cases foreign

/-- Nor has a punctuator. -/
theorem ofMark {c : CodePoint} {kind : TokenKind} (mark : TokenKind.ofPunctuator? c = some kind) :
    Solid (kind, [c]) := by
  obtain ⟨significant, -, unquoted⟩ := Lexeme.punctuator_significant mark
  exact ⟨unquoted, by simpa using significant⟩

end Solid

/-! ## Words of a type -/

namespace TypeReference

variable {type : TypeReference}

/-- No wrapper without null is directly around another one. -/
def MarkedOnce : TypeReference → Prop
  | named _ => True
  | list element _ => element.MarkedOnce
  | nonNull inner _ => inner.isNonNull = false ∧ inner.MarkedOnce

/-- The words of a type reference. -/
def words : TypeReference → List Reading
  | named type => [(.name, type.name)]
  | list element _ => (.leftBracket, "[") ::
    (element.words ++ ([(.rightBracket, "]")] : List Reading))
  | nonNull inner _ => inner.words ++ ([(.bang, "!")] : List Reading)

/-- What is written is what the words say. -/
theorem words_written (type : TypeReference) : type.words.flatMap Prod.snd = type.notated := by
  induction type with
  | named type => exact List.flatMap_singleton _ _
  | list element _ inductionHypothesis =>
    simp [words, notated, Text.concat, inductionHypothesis]
  | nonNull inner _ inductionHypothesis =>
    simp [words, notated, inductionHypothesis]

/-- The words spell the type, and without a mark at the end where null is allowed. -/
theorem words_phrase (once : type.MarkedOnce) :
    TypePhrase type.words type.withoutSpans ∧
      (type.isNonNull = false → BareTypePhrase type.words type.withoutSpans) := by
  induction type with
  | named type =>
    have bare : BareTypePhrase (words (.named type)) (TypeReference.named type).withoutSpans :=
      .named (.intro (.intro type.name))
    exact ⟨.nullable bare, fun _ => bare⟩
  | list element span inductionHypothesis =>
    have bare : BareTypePhrase (words (.list element span)) (list element span).withoutSpans :=
      .list (.intro "[") (inductionHypothesis once).1 (.intro "]")
    exact ⟨.nullable bare, fun _ => bare⟩
  | nonNull inner span inductionHypothesis =>
    obtain ⟨nullable, once⟩ := once
    constructor
    · exact .nonNull ((inductionHypothesis once).2 nullable) (.intro "!")
    · exact nofun

/-- The name is one of the words. -/
theorem name_mem_words (type : TypeReference) :
    (TokenKind.name, type.innermost.name) ∈ type.words := by
  induction type with
  | named type => exact List.mem_singleton_self _
  | list element _ inductionHypothesis => simp [words, innermost, inductionHypothesis]
  | nonNull inner _ inductionHypothesis => simp [words, innermost, inductionHypothesis]

/-- No word of a type over a name has layout in it. -/
theorem words_solid (named : type.innermost.name.isName = true) :
    ∀ word ∈ type.words, Solid word := by
  induction type with
  | named type =>
    intro word member
    obtain rfl := List.mem_singleton.mp member
    exact .ofName named
  | list element _ inductionHypothesis =>
    have opening : Solid (TokenKind.leftBracket, "[") := .ofMark rfl
    have closing : Solid (TokenKind.rightBracket, "]") := .ofMark rfl
    simpa [words, or_imp, forall_and, opening, closing] using inductionHypothesis named
  | nonNull inner _ inductionHypothesis =>
    have mark : Solid (TokenKind.bang, "!") := .ofMark rfl
    simpa [words, or_imp, forall_and, mark] using inductionHypothesis named

end TypeReference

/-! ## Types to words -/

namespace Spells

variable {text : Text} {words : List Reading}

/-- The end of a text is the end of input. -/
theorem finish : Spells [] [(.endOfInput, [])] := by
  intro place
  exact ⟨[Token.finish place], scan.eq_1 place, rfl⟩

/-- A name is one word in front of what does not go on with it. -/
theorem name {name : Text} (named : name.isName = true) (halts : Halts CodePoint.isNameRest text)
    (spells : Spells text words) : Spells (name ++ text) ((.name, name) :: words) := by
  have dense := (Solid.ofName named).dense
  simp only [Text.isName, Bool.and_eq_true, List.all_eq_true] at named
  obtain ⟨begins, all⟩ := named
  have spelled : Lexeme.name (name ++ text) = ⟨.name, name, name, text⟩ := by
    have none : text.takeWhile CodePoint.isNameRest = [] := halts.takeWhile_append []
    have behind : text.dropWhile CodePoint.isNameRest = text := halts.dropWhile_append []
    simp only [Lexeme.name, List.takeWhile_append_of_pos all, List.dropWhile_append_of_pos all,
      none, behind, List.append_nil]
  cases name with
  | nil => cases begins
  | cons c name =>
    have significant : ¬ c.isIgnored = true := (not_or.mp (dense c List.mem_cons_self)).1
    have found : Lexeme.read c (name ++ text) = .ok ⟨.name, c :: name, c :: name, text⟩ :=
      spelled ▸ Lexeme.read_iff.mpr (.name begins)
    exact .lexeme significant found spells

/-- A punctuator is one word. -/
theorem mark {c : CodePoint} {kind : TokenKind} (mark : TokenKind.ofPunctuator? c = some kind)
    (spells : Spells text words) : Spells (c :: text) ((kind, [c]) :: words) := by
  obtain ⟨significant, other, -⟩ := Lexeme.punctuator_significant mark
  have found : Lexeme.read c text = .ok ⟨kind, [c], [c], text⟩ :=
    Lexeme.read_iff.mpr (.punctuator mark)
  have one := Spells.lexeme (not_or.mp significant).1 found spells
  rwa [Lexeme.wordsBefore, if_neg other] at one

/-- What is written for a type over a name is the words of the type. -/
theorem type {type : TypeReference} (named : type.innermost.name.isName = true)
    (halts : Halts CodePoint.isNameRest text) (spells : Spells text words) :
    Spells (type.notated ++ text) (type.words ++ words) := by
  induction type generalizing text words with
  | named type => exact .name named halts spells
  | list element span inductionHypothesis =>
    have inner := inductionHypothesis named (.cons (by decide)) (.mark (c := ']') rfl spells)
    have outer := Spells.mark (c := '[') rfl inner
    simpa [TypeReference.notated, TypeReference.words, Text.concat, Text.ofString] using outer
  | nonNull inner span inductionHypothesis =>
    have whole := inductionHypothesis named (.cons (by decide)) (.mark (c := '!') rfl spells)
    simpa [TypeReference.notated, TypeReference.words, Text.ofString] using whole

/-- Where the words of a text are a document, it is parsed as that. -/
theorem parses {trees : List Definition}
    (spells : Spells text (words ++ [(TokenKind.endOfInput, [])]))
    (derived : DocumentPhrase words trees) :
    ∃ definitions, parseDocument text = .ok definitions ∧
      definitions.map Definition.withoutSpans = trees := by
  obtain ⟨tokens, scanned, same⟩ := spells .origin
  obtain ⟨body, rfl⟩ := scan_ends scanned
  rw [wordsOf_finish] at same
  obtain rfl := List.append_cancel_right same
  have sees : (Cursor.ofTokens body (Token.finish (Position.origin.through text))).Sees
      (wordsOf body) := Cursor.sees_ofTokens rfl body
  obtain ⟨fine, found⟩ := DocumentReading.ofCursor_complete sees derived
  refine ⟨_, parseDocument_eq_ok.mpr ⟨body, scanned, ?_⟩, found⟩
  rw [← fine]

end Spells

/-- The words of an object type with one field of a type. -/
def TypeReference.fieldWords (type : TypeReference) : List Reading :=
  (.name, "type") :: (.name, "T") :: (.leftBrace, "\x7b") :: (.name, "f") :: (.colon, ":") ::
    (type.words ++ ([(.rightBrace, "\x7d")] : List Reading))

/-- They spell that object type. -/
theorem TypeReference.fieldWords_phrase {type : TypeReference} (once : type.MarkedOnce) :
    DocumentPhrase type.fieldWords
      [.object ⟨"T", [], [⟨"f", [], type.withoutSpans, [], none, .unknown⟩], [], none,
        .unknown⟩] := by
  have field : FieldPhrase _ ⟨"f", [], type.withoutSpans, [], none, .unknown⟩ :=
    .intro .missing (.intro "f") .absent (.intro ":") (words_phrase once).1 .none
  have body : BracedPhrase FieldPhrase _ [⟨"f", [], type.withoutSpans, [], none, .unknown⟩] :=
    .present (.intro "\x7b") (.intro (.more field .none) (.intro "\x7d"))
  have object : FieldedTypePhrase "type" none _
      ⟨"T", [], [⟨"f", [], type.withoutSpans, [], none, .unknown⟩], [], none, .unknown⟩ :=
    .intro .intro (.intro "T") .absent .none body
  have document : DocumentPhrase _ _ := .more (.intro .missing (.object object)) .none
  simpa [fieldWords] using document

/-- A field of a type, in an object type that has no other. -/
theorem Spells.field {type : TypeReference} (named : type.innermost.name.isName = true) :
    Spells (Text.concat ["type T \x7b f: ", type.notated, " \x7d"])
      (type.fieldWords ++ [(TokenKind.endOfInput, [])]) := by
  have closing := Spells.ignored (c := ' ') rfl (.mark (c := '\x7d') rfl .finish)
  have typed := Spells.type named (.cons rfl) closing
  have colon := Spells.mark (c := ':') rfl (.ignored (c := ' ') rfl typed)
  have field : Spells (("f" : Text) ++ _) _ := .name rfl (.cons rfl) colon
  have opening := Spells.ignored (c := ' ') rfl
    (.mark (c := '\x7b') rfl (.ignored (c := ' ') rfl field))
  have object : Spells (("T" : Text) ++ _) _ := .name rfl (.cons rfl) opening
  have keyword : Spells (("type" : Text) ++ _) _ :=
    .name rfl (.cons rfl) (.ignored (c := ' ') rfl object)
  simpa [Text.concat, Text.ofString, TypeReference.fieldWords] using keyword

/-! ## Tokens of a type -/

/-- A token as it is scanned: a name is one of the schema language, and a mark says itself. -/
structure Token.WellSpelled (token : Token) : Prop where
  /-- A name is one of the schema language. -/
  name : token.kind = .name → token.value.isName = true
  /-- A mark says itself. -/
  mark : ∀ c, TokenKind.ofPunctuator? c = some token.kind → token.value = [c]

/-- Every token of a text is spelled so. -/
theorem scan_wellSpelled {place : Position} {text : Text} {tokens : List Token}
    (scanned : scan place text = .ok tokens) : ∀ token ∈ tokens, token.WellSpelled := by
  intro token member
  by_cases ended : token.kind = .endOfInput
  · constructor
    · intro kind
      cases ended.symm.trans kind
    · intro c mark
      have listed := Lexeme.punctuator_mem mark
      simp [ended, Lexeme.punctuators] at listed
  · obtain ⟨front, c, rest, lexeme, -, read, rfl⟩ := scan_lexemes scanned member ended
    exact ⟨Lexeme.read_name read, fun d mark => Lexeme.read_mark read mark⟩

/-- A token that stands for a mark reads as the mark. -/
theorem Token.WellSpelled.reading {token : Token} {c : CodePoint} {kind : TokenKind}
    (spelled : token.WellSpelled) (mark : TokenKind.ofPunctuator? c = some kind)
    (admits : (Piece.mark kind).Admits token) : token.reading = (kind, [c]) := by
  have same : token.kind = kind := admits
  exact Prod.ext same (spelled.mark c (same ▸ mark))

namespace Fits

variable {located : List Token → SyntaxNode → Prop} {tokens : List Token} {pieces : List Piece}

/-- A mark is one token. -/
theorem of_mark {kind : TokenKind} (fits : Fits located tokens (.mark kind :: pieces)) :
    ∃ token others, tokens = token :: others ∧ token.kind = kind ∧ Fits located others pieces := by
  cases fits with
  | token admits further => exact ⟨_, _, rfl, admits, further⟩

/-- A node has some tokens. -/
theorem of_node {node : SyntaxNode} (fits : Fits located tokens (.node node :: pieces)) :
    ∃ part others, tokens = part ++ others ∧ located part node ∧ Fits located others pieces := by
  cases fits with
  | token admits _ => exact admits.elim
  | node here further => exact ⟨_, _, rfl, here, further⟩

/-- Nothing has no tokens. -/
theorem of_nil (fits : Fits located tokens []) : tokens = [] := by
  cases fits
  rfl

end Fits

/-- The tokens of a type are its words. -/
theorem Located.type_words {type : TypeReference} {tokens : List Token}
    (spelled : ∀ token ∈ tokens, token.WellSpelled) (located : Located tokens (.type type)) :
    tokens.map Token.reading = type.words := by
  induction type generalizing tokens with
  | named type =>
    obtain ⟨fits, -, -, -⟩ := located
    cases fits with
    | token admits further =>
      obtain rfl := further.of_nil
      exact congrArg ([·]) admits
  | list element span inductionHypothesis =>
    obtain ⟨fits, -, -, -⟩ := located
    obtain ⟨first, _, rfl, opening, fits⟩ := fits.of_mark
    obtain ⟨part, _, rfl, inner, fits⟩ := fits.of_node
    obtain ⟨last, _, rfl, closing, fits⟩ := fits.of_mark
    obtain rfl := fits.of_nil
    simp only [List.forall_mem_cons, List.forall_mem_append] at spelled
    obtain ⟨begins, each, ends, -⟩ := spelled
    have opened : first.reading = ((.leftBracket, "[") : Reading) := begins.reading rfl opening
    have closed : last.reading = ((.rightBracket, "]") : Reading) := ends.reading rfl closing
    simp [TypeReference.words, opened, closed, inductionHypothesis each inner]
  | nonNull nullable span inductionHypothesis =>
    obtain ⟨fits, -, -, -⟩ := located
    obtain ⟨part, _, rfl, inner, fits⟩ := fits.of_node
    obtain ⟨last, _, rfl, closing, fits⟩ := fits.of_mark
    obtain rfl := fits.of_nil
    simp only [List.forall_mem_cons, List.forall_mem_append] at spelled
    obtain ⟨each, ends, -⟩ := spelled
    have marked : last.reading = ((.bang, "!") : Reading) := ends.reading rfl closing
    simp [TypeReference.words, marked, inductionHypothesis each inner]

/-- A type of a parsed text is written as the text has it, without the layout in it. -/
theorem TypeReference.notated_slice {text : Text} {definitions : List Definition}
    (parsed : parseDocument text = .ok definitions) {definition : Definition}
    (member : definition ∈ definitions) {type : TypeReference}
    (inside : SyntaxNode.Inside (.type type) (.definition definition)) :
    type.notated = (text.slice type.span.start type.span.stop).withoutLayout := by
  obtain ⟨body, finish, scanned, -, -, covers⟩ := parseDocument_located parsed
  obtain ⟨part, covered, located⟩ := covers definition member _ inside
  have run : part <:+: meaningful (body ++ [finish]) := by
    rw [meaningful, List.filter_append]
    exact covered.trans (List.prefix_append _ _).isInfix
  have spelled : ∀ token ∈ part, token.WellSpelled := fun token listed =>
    scan_wellSpelled scanned token (List.mem_filter.mp (run.subset listed)).1
  have words : part.map Token.reading = type.words := located.type_words spelled
  have named : type.innermost.name.isName = true := by
    obtain ⟨token, listed, reads⟩ := List.mem_map.mp (words ▸ type.name_mem_words)
    obtain ⟨kind, value⟩ := Prod.mk.inj reads
    exact value ▸ (spelled token listed).name kind
  have solid : ∀ token ∈ part, Solid token.reading := fun token listed =>
    words_solid named _ (words ▸ List.mem_map_of_mem listed)
  obtain ⟨first, -, last, -, begins, ends, start, stop⟩ := located.span_tokens
  have starts : type.span.start = first.start := start
  have stops : type.span.stop = last.stop := stop
  calc type.notated
    _ = type.words.flatMap Prod.snd := type.words_written.symm
    _ = part.flatMap Token.value := by rw [← words, List.flatMap_map]; rfl
    _ = (text.slice first.start last.stop).withoutLayout :=
      (slice_withoutLayout scanned run begins ends solid).symm
    _ = (text.slice type.span.start type.span.stop).withoutLayout := by rw [starts, stops]

/-! ## Back and forth -/

/-- Types and what is written for them go together. A type over a name, without a mark behind
another one, is the type of the field when it is written as that of a field and parsed, up to
spans. A type of a parsed text, wherever it stands, is written as the text has it between the ends
of its span, without the ignored code points and comments there. -/
theorem TypeReference.notated_roundTrips :
    (∀ type : TypeReference, type.innermost.name.isName = true → type.MarkedOnce →
      ∃ definitions,
        parseDocument (Text.concat ["type T \x7b f: ", type.notated, " \x7d"]) = .ok definitions ∧
        definitions.map Definition.withoutSpans =
          [.object ⟨"T", [], [⟨"f", [], type.withoutSpans, [], none, .unknown⟩], [], none,
            .unknown⟩]) ∧
    ∀ (text : Text) (definitions : List Definition), parseDocument text = .ok definitions →
      ∀ definition ∈ definitions, ∀ type : TypeReference,
        SyntaxNode.Inside (.type type) (.definition definition) →
        type.notated = (text.slice type.span.start type.span.stop).withoutLayout := by
  constructor
  · intro type named once
    exact (Spells.field named).parses (fieldWords_phrase once)
  · intro text definitions parsed definition member type inside
    exact notated_slice parsed member inside

/-- A list on two lines over a keyword, with a comma and a comment in it. -/
def scatteredText : Text := "type A \x7b b: [,type # c\n !] \x7d"

/-- The list. -/
def scatteredType : TypeReference :=
  .list (.nonNull (.named ⟨"type", ⟨14, 18, 1, 15⟩⟩) ⟨14, 25, 1, 15⟩) ⟨12, 26, 1, 13⟩

/-- The list is written without what is scattered in it, and is found again. -/
theorem TypeReference.notated_roundTrips_scattered :
    (∃ definitions, parseDocument "type T \x7b f: [type!] \x7d" = .ok definitions ∧
      definitions.map Definition.withoutSpans =
        [.object ⟨"T", [], [⟨"f", [], scatteredType.withoutSpans, [], none, .unknown⟩], [], none,
          .unknown⟩]) ∧
    scatteredText.slice 12 26 = "[,type # c\n !]" ∧
      scatteredType.notated = (scatteredText.slice 12 26).withoutLayout := by
  have scanned : tokenize scatteredText = .ok
      [⟨.name, "type", 1, 1, 0, 4⟩, ⟨.name, "A", 1, 6, 5, 6⟩, ⟨.leftBrace, "\x7b", 1, 8, 7, 8⟩,
        ⟨.name, "b", 1, 10, 9, 10⟩, ⟨.colon, ":", 1, 11, 10, 11⟩,
        ⟨.leftBracket, "[", 1, 13, 12, 13⟩, ⟨.name, "type", 1, 15, 14, 18⟩,
        ⟨.comment, " c", 1, 20, 19, 22⟩, ⟨.bang, "!", 2, 2, 24, 25⟩,
        ⟨.rightBracket, "]", 2, 3, 25, 26⟩, ⟨.rightBrace, "\x7d", 2, 5, 27, 28⟩,
        ⟨.endOfInput, "", 2, 6, 28, 28⟩] := by cbv
  let field : Field := ⟨"b", [], scatteredType, [], none, ⟨9, 26, 1, 10⟩⟩
  have parsed : parseDocument scatteredText =
      .ok [.object ⟨"A", [], [field], [], none, ⟨0, 28, 1, 1⟩⟩] := by
    rw [parseDocument, scanned]
    with_unfolding_all rfl
  have inside : SyntaxNode.Inside (.type scatteredType)
      (.definition (.object ⟨"A", [], [field], [], none, ⟨0, 28, 1, 1⟩⟩)) :=
    .child (.child .itself List.mem_cons_self) List.mem_cons_self
  obtain ⟨parses, slices⟩ := notated_roundTrips
  refine ⟨parses scatteredType rfl ⟨rfl, trivial⟩, by decide, ?_⟩
  exact slices _ _ parsed _ List.mem_cons_self _ inside

end SchemaForge

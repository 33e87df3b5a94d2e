import SchemaForge.Proofs.CodeLines

/-!
# Docstrings as lines

A docstring is a statement of one logical line, however many lines of text it has. It is one only
if it ends properly, and this is not so for every text: where one quote is left over behind the
literal, a second literal is opened that never ends. Two quotes that are left over are an empty
literal, which changes nothing. Null characters and surrogates cannot be in a source text at all,
and are written as they are.

What is asked of the text that a docstring says is the same for modules and for classes. In the
body of a class the docstring is indented, so it is the literal of a text laid out anew. Whatever
line ends the text has, those of the literal are line feeds.
-/

namespace SchemaForge

open LogicalLine ModuleSyntax Text

/-- A text that a docstring can say. -/
structure Quotable (text : Text) : Prop where
  /-- Its code points can be in a source text. -/
  readable : ∀ c ∈ text, c.val ≠ 0 ∧ c.isSurrogate = false
  /-- It is not left with one quote that no escape takes. -/
  closed : .lineFeed ∈ text ∨ trailingQuotes text % 3 ≠ 1

instance (text : Text) : Decidable (Quotable text) :=
  decidable_of_iff ((∀ c ∈ text, c.val ≠ 0 ∧ c.isSurrogate = false) ∧
    (CodePoint.lineFeed ∈ text ∨ trailingQuotes text % 3 ≠ 1))
    ⟨fun ⟨readable, closed⟩ => ⟨readable, closed⟩, fun ⟨readable, closed⟩ => ⟨readable, closed⟩⟩

variable {text : Text} {c : CodePoint}

/-! ## Literals -/

/-- Only a backslash escapes. -/
theorem escapesKnown_plain (other : c ≠ .backslash) (rest : Text) :
    escapesKnown (c :: rest) = escapesKnown rest := by
  rw [escapesKnown.eq_def]
  simp only [if_neg other]

/-- A spelling has the escapes of quotes and backslashes only. -/
theorem escapesKnown_spelledOut (text : Text) {behind : Text} (known : escapesKnown behind = true) :
    escapesKnown (spelledOut text ++ behind) = true := by
  induction text using spelling_induction with
  | nil =>
    rw [spelledOut_nil]
    exact known
  | backslash rest inductionHypothesis =>
    rw [spelledOut_backslash]
    simpa [escapesKnown] using inductionHypothesis
  | quotes tail inductionHypothesis =>
    rw [spelledOut_quotes]
    simpa [escapesKnown] using inductionHypothesis
  | quote rest absent inductionHypothesis =>
    rw [spelledOut_quote absent, List.cons_append, escapesKnown_plain (by decide)]
    exact inductionHypothesis
  | plain c rest unescaped unquoted inductionHypothesis =>
    rw [spelledOut_plain unescaped unquoted, List.cons_append, escapesKnown_plain unescaped]
    exact inductionHypothesis

/-- A spelling between triple quotes is a docstring if not one quote is left over. -/
theorem isDocstring_spelledOut (paired : strayQuotes text ≠ [.quote]) :
    IsDocstring (tripleQuote ++ (spelledOut text ++ tripleQuote)) := by
  constructor
  · have closed : escapesKnown tripleQuote = true := by decide
    have known := escapesKnown_spelledOut text closed
    have unescaped : CodePoint.quote ≠ .backslash := by decide
    simpa only [tripleQuote, List.cons_append, List.nil_append, escapesKnown_plain unescaped]
      using known
  · obtain ⟨said, -, read⟩ := readLiteralBody_spelledOut text []
    rw [List.append_nil, List.append_nil] at read
    refine ⟨said, strayQuotes text, ?_, ?_⟩
    · rw [readLiteral, after?_lead, Option.bind_some, read]
    · have few := Nat.mod_lt (trailingQuotes text) (show 0 < 3 by decide)
      rw [strayQuotes] at paired ⊢
      generalize trailingQuotes text % 3 = count at few paired ⊢
      obtain rfl | rfl | rfl : count = 0 ∨ count = 1 ∨ count = 2 := by omega
      · exact .inl rfl
      · exact absurd rfl paired
      · exact .inr rfl

/-- Nothing, or two quotes, is left over of a text that a docstring can say. -/
theorem Quotable.paired (quotable : Quotable text) : strayQuotes (completed text) ≠ [.quote] := by
  intro single
  have finished : CodePoint.lineFeed ∉ text := by
    intro several
    rw [(strayQuotes_completed text).mpr (.inl several)] at single
    cases single
  obtain several | paired := quotable.closed
  · exact finished several
  · rw [completed, if_neg finished] at single
    refine paired ?_
    rw [← List.length_replicate (n := trailingQuotes text % 3) (a := CodePoint.quote),
      ← strayQuotes, single]
    rfl

/-- What a docstring is made of. -/
theorem mem_docstring (member : c ∈ Layout.docstring text) :
    c = .quote ∨ c = .backslash ∨ c = .lineFeed ∨ c ∈ text := by
  by_cases quoted : c = .quote
  · exact .inl quoted
  by_cases escapes : c = .backslash
  · exact .inr (.inl escapes)
  refine .inr (.inr ?_)
  rw [docstring_eq, List.mem_append, List.mem_append, mem_spelledOut escapes quoted,
    completed] at member
  obtain marked | said | marked := member
  · exact absurd (by simpa [tripleQuote] using marked) quoted
  · split at said
    · obtain said | feed := List.mem_append.mp said
      · exact .inr said
      · exact .inl (List.mem_singleton.mp feed)
    · exact .inr said
  · exact absurd (by simpa [tripleQuote] using marked) quoted

/-- The docstring of a text that has no carriage returns stays on its line. -/
theorem lined_docstring (quotable : Quotable text) (unreturned : .carriageReturn ∉ text) :
    IsDocstring (Layout.docstring text) ∧
      Lined (Layout.docstring text) [⟨0, Layout.docstring text⟩] := by
  have literal : IsDocstring (Layout.docstring text) := by
    rw [docstring_eq]
    exact isDocstring_spelledOut quotable.paired
  have source : ∀ c ∈ Layout.docstring text, isSource c = true := by
    intro c member
    obtain rfl | rfl | rfl | member := mem_docstring member
    · decide
    · decide
    · decide
    · obtain ⟨null, surrogate⟩ := quotable.readable c member
      have returned : c ≠ .carriageReturn := by
        rintro rfl
        exact unreturned member
      simp [isSource, null, surrogate, returned]
  exact ⟨literal, lined_snippet (snippet_docstring literal source) (docstring_eq text)
    (by decide) 0⟩

/-! ## Docstrings of classes -/

/-- The docstring of a class as it stands in the body, without the blanks in front. -/
def classDoc (text : Text) : Text :=
  (Layout.indent indentWidth (Layout.docstring text)).drop indentWidth

/-- It is the literal of a text laid out anew, and what comes behind it on new lines does not
change it. -/
theorem classDoc_eq (text : Text) :
    (∃ laid, strayQuotes laid = strayQuotes (completed text) ∧
      classDoc text = tripleQuote ++ (spelledOut laid ++ tripleQuote)) ∧
    ∀ behind : Text, behind.OnNewLine →
      Layout.indent indentWidth (Layout.docstring text ++ behind) =
        Text.blanks indentWidth ++ (classDoc text ++ indentedBehind indentWidth behind) := by
  obtain ⟨laid, strays, indented⟩ := indent_docstring indentWidth text
  have alone := indented [] (.inl rfl)
  have spelled : classDoc text = tripleQuote ++ (spelledOut laid ++ tripleQuote) := by
    have ended : indentedBehind indentWidth [] = [] := by
      simp [indentedBehind, splitLines, linesFrom]
    rw [List.append_nil, ended, List.append_nil] at alone
    rw [classDoc, alone, List.drop_left' (by simp [blanks])]
  refine ⟨⟨laid, strays, spelled⟩, fun behind closed => ?_⟩
  rw [indented behind closed, spelled]
  simp only [List.append_assoc]

/-- What is on the lines of a text comes from the text, and is no line end. -/
theorem mem_linesFrom {current line : Text} (listed : line ∈ linesFrom current text)
    (member : c ∈ line) : c ∈ current ∨ c ∈ text ∧ c.isLineEnd = false := by
  -- Where a line ends, what has been read is a line, and the others are those of the rest.
  have ended {current rest text : Text} (part : rest ⊆ text)
      (listed : line ∈ current.reverse :: linesFrom [] rest)
      (others : line ∈ linesFrom [] rest → c ∈ ([] : Text) ∨ c ∈ rest ∧ c.isLineEnd = false) :
      c ∈ current ∨ c ∈ text ∧ c.isLineEnd = false := by
    obtain rfl | listed := List.mem_cons.mp listed
    · exact .inl (List.mem_reverse.mp member)
    · obtain none | ⟨inside, plain⟩ := others listed
      · cases none
      · exact .inr ⟨part inside, plain⟩
  fun_induction linesFrom current text with
  | case1 => cases listed
  | case2 current some =>
    rw [List.mem_singleton.mp listed, List.mem_reverse] at member
    exact .inl member
  | case3 current rest inductionHypothesis =>
    refine ended ?_ listed inductionHypothesis
    exact List.Subset.trans (List.subset_cons_self _ _) (List.subset_cons_self _ _)
  | case4 current d rest other inductionHypothesis =>
    exact ended (List.subset_cons_self _ _) listed inductionHypothesis
  | case5 current =>
    rw [List.mem_singleton.mp listed, List.mem_reverse] at member
    exact .inl member
  | case6 current d rest other ends inductionHypothesis =>
    exact ended (List.subset_cons_self _ _) listed inductionHypothesis
  | case7 current d rest other plain inductionHypothesis =>
    obtain inside | ⟨inside, plainToo⟩ := inductionHypothesis listed
    · obtain rfl | inside := List.mem_cons.mp inside
      · exact .inr ⟨List.mem_cons_self, by simpa using plain⟩
      · exact .inl inside
    · exact .inr ⟨List.mem_cons_of_mem _ inside, plainToo⟩

/-- An indented text has the code points of the text without its line ends, line feeds and
blanks. -/
theorem mem_indent {width : Nat} (member : c ∈ Layout.indent width text) :
    c = .lineFeed ∨ c = ' ' ∨ c ∈ text ∧ c.isLineEnd = false := by
  obtain feed | ⟨line, listed, inside⟩ := mem_join member
  · exact .inl (List.mem_singleton.mp feed)
  · obtain ⟨given, cut, rfl⟩ := List.mem_map.mp listed
    refine .inr ?_
    split at inside
    · cases inside
    · obtain blank | inside := List.mem_append.mp inside
      · exact .inl (List.eq_of_mem_replicate blank)
      · obtain none | found := mem_linesFrom cut inside
        · cases none
        · exact .inr found

/-- The docstring of a class stays on its line. Carriage returns in the text end its lines, and
become line feeds. -/
theorem lined_classDoc (quotable : Quotable text) :
    IsDocstring (classDoc text) ∧
      Lined (Text.blanks indentWidth ++ classDoc text) [⟨indentWidth, classDoc text⟩] := by
  obtain ⟨⟨laid, strays, spelled⟩, -⟩ := classDoc_eq text
  have literal : IsDocstring (classDoc text) := by
    rw [spelled]
    exact isDocstring_spelledOut (strays ▸ quotable.paired)
  have source : ∀ c ∈ classDoc text, isSource c = true := by
    intro c member
    obtain rfl | rfl | ⟨member, plain⟩ := mem_indent (List.mem_of_mem_drop member)
    · decide
    · decide
    · obtain rfl | rfl | rfl | member := mem_docstring member
      · decide
      · decide
      · decide
      · obtain ⟨null, surrogate⟩ := quotable.readable c member
        have returned : c ≠ .carriageReturn := by
          rintro rfl
          exact absurd plain (by decide)
        simp [isSource, null, surrogate, returned]
  exact ⟨literal, lined_snippet (snippet_docstring literal source) spelled (by decide) indentWidth⟩

/-! ## Bodies of classes -/

/-- Indented lines behind others are lines. -/
theorem Lined.members {front : Text} {lines : List LogicalLine} {texts : List Text}
    (lined : Lined front lines) (each : ∀ text ∈ texts, CodeLine text) :
    Lined (front ++ texts.flatMap (fun text => .lineFeed :: (Text.blanks indentWidth ++ text)))
      (lines ++ texts.map (LogicalLine.mk indentWidth)) := by
  induction texts generalizing front lines with
  | nil => simpa using lined
  | cons text texts inductionHypothesis =>
    obtain ⟨first, others⟩ := List.forall_mem_cons.mp each
    have further := inductionHypothesis (lined.append (first.lined indentWidth)) others
    simpa using further

/-- Names have no white space in them. -/
theorem not_isSpace_of_isNameRest (named : c.isNameRest = true) : c.isSpace = false := by
  have visible := visible_of_isNameRest named
  rw [Bool.eq_false_iff]
  intro space
  simp only [CodePoint.isSpace, Bool.or_eq_true, Bool.and_eq_true, decide_eq_true_eq] at space
  omega

/-- The lines of members stay as they are when they are indented behind a docstring. -/
theorem indentedBehind_members {texts : List Text} (each : ∀ text ∈ texts, CodeLine text) :
    indentedBehind indentWidth (texts.flatMap (.lineFeed :: ·)) =
      texts.flatMap (fun text => .lineFeed :: (Text.blanks indentWidth ++ text)) := by
  have cut : ∀ texts : List Text, (∀ text ∈ texts, CodeLine text) →
      splitLines ((texts.flatMap (.lineFeed :: ·)).drop 1) = texts := by
    intro texts each
    induction texts with
    | nil => simp [splitLines, linesFrom]
    | cons text texts inductionHypothesis =>
      obtain ⟨first, others⟩ := List.forall_mem_cons.mp each
      have given : text ≠ [] := by
        rintro rfl
        cases first.begins
      have closed : OnNewLine (texts.flatMap (.lineFeed :: ·)) := by
        cases texts with
        | nil => exact .inl rfl
        | cons next texts => exact .inr ⟨_, rfl⟩
      rw [List.flatMap_cons, List.cons_append, List.drop_succ_cons, List.drop_zero, splitLines,
        linesFrom_closed first.line given closed, ← splitLines, inductionHypothesis others]
  rw [indentedBehind, cut texts each, List.flatMap_map]
  refine List.flatMap_congr ?_
  intro text member
  obtain ⟨-, -, -, begins⟩ := each text member
  cases text with
  | nil => cases begins
  | cons c rest =>
    have named : c.isNameRest = true := Bool.or_eq_true_iff.mpr (.inl begins)
    rw [indentedLine_visible indentWidth List.mem_cons_self (not_isSpace_of_isNameRest named)]

/-- The body of a class is its docstring, and its members on lines of their own. -/
theorem lined_classBody {doc : Text} (quotable : Quotable doc) {texts : List Text}
    (each : ∀ text ∈ texts, CodeLine text) :
    Lined (Layout.indent indentWidth (Render.classBody doc texts))
      (⟨indentWidth, classDoc doc⟩ :: texts.map (LogicalLine.mk indentWidth)) := by
  obtain ⟨-, indented⟩ := classDoc_eq doc
  have documented := (lined_classDoc quotable).2
  cases texts with
  | nil =>
    have whole := indented [] (.inl rfl)
    have ended := indentedBehind_members each
    rw [List.flatMap_nil, List.flatMap_nil] at ended
    rw [List.append_nil, ended, List.append_nil] at whole
    change Lined (Layout.indent indentWidth (Layout.docstring doc)) _
    rw [whole]
    exact documented
  | cons text texts =>
    have whole := indented (.lineFeed :: (text :: texts).flatMap (.lineFeed :: ·)) (.inr ⟨_, rfl⟩)
    have body : Render.classBody doc (text :: texts) =
        Layout.docstring doc ++ .lineFeed :: (text :: texts).flatMap (.lineFeed :: ·) :=
      join_behind (Layout.docstring doc) ([] :: text :: texts)
    -- The first line behind the docstring is empty, and is not indented.
    have empty : indentedBehind indentWidth
        (.lineFeed :: (text :: texts).flatMap (.lineFeed :: ·)) =
          .lineFeed :: indentedBehind indentWidth ((text :: texts).flatMap (.lineFeed :: ·)) := by
      rw [List.flatMap_cons, List.cons_append, indentedBehind, indentedBehind, List.drop_succ_cons,
        List.drop_zero, List.drop_succ_cons, List.drop_zero, splitLines, ← List.singleton_append,
        linesFrom_end (.single (by decide) (by decide))]
      rfl
    rw [body, whole, empty, indentedBehind_members each, List.append_cons, ← List.append_assoc]
    have ended := (documented.ended).members each
    simpa using ended

end SchemaForge

import Mathlib.Data.List.Basic
import SchemaForge.Proofs.BindingsListing
import SchemaForge.Proofs.LexemeBoundary

/-!
# Where a docstring ends

A docstring is read back the way a triple-quoted literal is read: a backslash takes the next
code point with it, and the first three quotes that are not taken close the literal. What is
said then is the text of the docstring, with a line feed behind it if the text has one. There is
one exception. Quotes are escaped three at a time from the left, so a run at the very end of the
text may leave one or two of them in front of the closing quotes. These are taken for part of
the closing quotes: the literal ends as many code points early, and the quotes that are left
over come behind it. Behind a line feed this cannot happen.

In the body of a class the docstring is indented. Line ends become line feeds, blank lines lose
their blanks and the others get some, but neither a backslash nor a quote moves. So an indented
docstring is the docstring of a text laid out anew, and the same statement serves again.
-/

namespace SchemaForge

/-! ## Reading a literal -/

/-- What a backslash and the code point behind it stand for: the escapes of a quote and of a
backslash are undone, and no others. -/
def escapedMeaning (c : CodePoint) : Text :=
  if c = .quote ∨ c = .backslash then [c] else [.backslash, c]

/-- What a literal says behind its opening quotes, and what is behind the closing ones. There is
neither if the literal is left open. -/
def readLiteralBody : Text → Option (Text × Text)
  | [] => none
  | c :: rest =>
    if c = .backslash then
      match rest with
      | [] => none
      | d :: rest =>
        (readLiteralBody rest).map (fun (said, behind) => (escapedMeaning d ++ said, behind))
    else
      match Text.after? (c :: rest) tripleQuote with
      | some behind => some ([], behind)
      | none => (readLiteralBody rest).map (fun (said, behind) => (c :: said, behind))

/-- What a triple-quoted literal says, and what is behind it. -/
def readLiteral (text : Text) : Option (Text × Text) :=
  (Text.after? text tripleQuote).bind readLiteralBody

section Steps

variable {c : CodePoint} {rest : Text}

/-- A backslash takes the next code point with it. -/
theorem readLiteralBody_escape (d : CodePoint) (rest : Text) :
    readLiteralBody (.backslash :: d :: rest) =
      (readLiteralBody rest).map (fun (said, behind) => (escapedMeaning d ++ said, behind)) := by
  rw [readLiteralBody, if_pos rfl]

/-- Three quotes close the literal. -/
theorem readLiteralBody_closed (behind : Text) :
    readLiteralBody (tripleQuote ++ behind) = some ([], behind) := by
  change readLiteralBody (.quote :: .quote :: .quote :: behind) = _
  rw [readLiteralBody, if_neg (by decide)]
  simp [tripleQuote, Text.after?]

/-- A code point that neither escapes nor closes says itself. -/
theorem readLiteralBody_plain (unescaped : c ≠ .backslash)
    (unclosed : Text.after? (c :: rest) tripleQuote = none) :
    readLiteralBody (c :: rest) =
      (readLiteralBody rest).map (fun (said, behind) => (c :: said, behind)) := by
  rw [readLiteralBody.eq_def]
  simp only [if_neg unescaped, unclosed]

end Steps

/-! ## Spelling a text -/

namespace Text

variable {first c : CodePoint} {further substitute rest tail : Text}

/-- An occurrence is replaced, and the search goes on behind it. -/
theorem replace_found (found : after? rest further = some tail) :
    replace first further substitute (first :: rest) =
      substitute ++ replace first further substitute tail := by
  rw [replace.eq_def]
  simp only [↓reduceIte]
  split
  · next same => rw [Option.some.inj (found.symm.trans same)]
  · next absent => cases found.symm.trans absent

/-- What begins like the pattern but does not go on like it stays. -/
theorem replace_absent (absent : after? rest further = none) :
    replace first further substitute (first :: rest) =
      first :: replace first further substitute rest := by
  rw [replace.eq_def]
  simp only [↓reduceIte]
  split
  · next found => cases absent.symm.trans found
  · rfl

/-- What does not begin like the pattern stays. -/
theorem replace_other (other : c ≠ first) :
    replace first further substitute (c :: rest) =
      c :: replace first further substitute rest := by
  rw [replace.eq_def]
  simp only [if_neg other]

/-- A text with its backslashes doubled. -/
def doubled (text : Text) : Text := replace .backslash [] [.backslash, .backslash] text

/-- A text as a docstring spells it between the quotes: backslashes are doubled, and three
quotes in a row are escaped. -/
def spelledOut (text : Text) : Text :=
  replace .quote [.quote, .quote]
    [.backslash, .quote, .backslash, .quote, .backslash, .quote] (doubled text)

/-- A backslash is doubled. -/
theorem doubled_backslash (rest : Text) :
    doubled (.backslash :: rest) = .backslash :: .backslash :: doubled rest :=
  replace_found (by cases rest <;> rfl)

/-- Any other code point is not doubled. -/
theorem doubled_other (other : c ≠ .backslash) : doubled (c :: rest) = c :: doubled rest :=
  replace_other other

/-- Doubling backslashes brings no quotes together and takes none apart. -/
theorem after?_doubled (text : Text) (count : Nat) :
    after? (doubled text) (List.replicate count .quote) =
      (after? text (List.replicate count .quote)).map doubled := by
  induction count generalizing text with
  | zero =>
    have whole (given : Text) : after? given [] = some given := after?_lead [] given
    simp [whole]
  | succ count inductionHypothesis =>
    cases text with
    | nil => simp [doubled, replace, after?, List.replicate_succ]
    | cons c rest =>
      by_cases escapes : c = .backslash
      · subst escapes
        rw [doubled_backslash]
        rfl
      · rw [doubled_other escapes]
        by_cases quoted : c = .quote
        · simpa [after?, List.replicate_succ, quoted] using inductionHypothesis rest
        · simp [after?, List.replicate_succ, quoted]

/-- Nothing is spelled as nothing. -/
theorem spelledOut_nil : spelledOut [] = [] := by
  simp [spelledOut, doubled, replace]

/-- A backslash is spelled twice. -/
theorem spelledOut_backslash (rest : Text) :
    spelledOut (.backslash :: rest) = .backslash :: .backslash :: spelledOut rest := by
  rw [spelledOut, doubled_backslash, replace_other (by decide), replace_other (by decide)]
  rfl

/-- Three quotes are escaped. -/
theorem spelledOut_quotes (tail : Text) :
    spelledOut (tripleQuote ++ tail) =
      [.backslash, .quote, .backslash, .quote, .backslash, .quote] ++ spelledOut tail := by
  change spelledOut (.quote :: .quote :: .quote :: tail) = _
  rw [spelledOut, doubled_other (by decide), doubled_other (by decide), doubled_other (by decide)]
  exact replace_found (after?_lead [.quote, .quote] _)

/-- A quote in front of fewer than two others stays. -/
theorem spelledOut_quote (absent : after? rest [.quote, .quote] = none) :
    spelledOut (.quote :: rest) = .quote :: spelledOut rest := by
  rw [spelledOut, doubled_other (by decide)]
  refine replace_absent ?_
  have still := after?_doubled rest 2
  rwa [show List.replicate 2 CodePoint.quote = [.quote, .quote] from rfl, absent] at still

/-- Any other code point stays. -/
theorem spelledOut_plain (unescaped : c ≠ .backslash) (unquoted : c ≠ .quote) :
    spelledOut (c :: rest) = c :: spelledOut rest := by
  rw [spelledOut, doubled_other unescaped, replace_other unquoted]
  rfl

/-- Induction along the spelling of a text. -/
@[elab_as_elim]
theorem spelling_induction {motive : Text → Prop} (text : Text) (nil : motive [])
    (backslash : ∀ rest, motive rest → motive (.backslash :: rest))
    (quotes : ∀ tail, motive tail → motive (tripleQuote ++ tail))
    (quote : ∀ rest, after? rest [.quote, .quote] = none → motive rest → motive (.quote :: rest))
    (plain : ∀ c rest, c ≠ .backslash → c ≠ .quote → motive rest → motive (c :: rest)) :
    motive text := by
  induction size : text.length using Nat.strongRecOn generalizing text with
  | ind bound inductionHypothesis =>
    cases text with
    | nil => exact nil
    | cons c rest =>
      have shorter : rest.length < bound := by
        rw [← size]
        exact Nat.lt_succ_self _
      by_cases escapes : c = .backslash
      · exact escapes ▸ backslash rest (inductionHypothesis _ shorter rest rfl)
      by_cases quoted : c = .quote
      · subst quoted
        cases found : after? rest [.quote, .quote] with
        | none => exact quote rest found (inductionHypothesis _ shorter rest rfl)
        | some tail =>
          have split := eq_append_of_after? found
          have fewer : tail.length < bound := by
            rw [split, List.length_append] at shorter
            omega
          rw [split]
          exact quotes tail (inductionHypothesis _ fewer tail rfl)
      · exact plain c rest escapes quoted (inductionHypothesis _ shorter rest rfl)

/-- How many quotes a text ends with. -/
def trailingQuotes (text : Text) : Nat :=
  (text.reverse.takeWhile (fun c => decide (c = .quote))).length

/-- What stands in front of another code point does not count. -/
theorem trailingQuotes_behind (other : c ≠ .quote) (front back : Text) :
    trailingQuotes (front ++ c :: back) = trailingQuotes back := by
  simp only [trailingQuotes, List.reverse_append, List.reverse_cons, List.append_assoc,
    List.takeWhile_append, List.cons_append, List.nil_append]
  split
  · next all => simpa [other] using all.symm
  · rfl

/-- A text of quotes ends with all of them. -/
theorem trailingQuotes_replicate (count : Nat) :
    trailingQuotes (List.replicate count .quote) = count := by
  simp [trailingQuotes]

/-- A text is made of quotes or has another code point. -/
theorem quotes_or_other (text : Text) :
    text = List.replicate text.length .quote ∨
      ∃ front c back, text = front ++ c :: back ∧ c ≠ .quote := by
  by_cases all : ∀ c ∈ text, c = .quote
  · exact .inl (List.eq_replicate_of_mem all)
  · push Not at all
    obtain ⟨c, member, other⟩ := all
    obtain ⟨front, back, rfl⟩ := List.append_of_mem member
    exact .inr ⟨front, c, back, rfl, other⟩

/-- The quotes at the end of a text that no escape takes: what is left over of the last run. -/
def strayQuotes (text : Text) : Text := List.replicate (trailingQuotes text % 3) .quote

/-- What stands in front of another code point leaves no quotes over. -/
theorem strayQuotes_behind (other : c ≠ .quote) (front back : Text) :
    strayQuotes (front ++ c :: back) = strayQuotes back := by
  rw [strayQuotes, strayQuotes, trailingQuotes_behind other]

/-- Three quotes in front leave none over. -/
theorem strayQuotes_tripleQuote (tail : Text) :
    strayQuotes (tripleQuote ++ tail) = strayQuotes tail := by
  obtain all | ⟨front, c, back, rfl, other⟩ := quotes_or_other tail
  · have joined : tripleQuote ++ tail = List.replicate (3 + tail.length) .quote := by
      rw [List.replicate_add, ← all]
      rfl
    rw [strayQuotes, strayQuotes, joined, trailingQuotes_replicate, all,
      trailingQuotes_replicate, List.length_replicate, Nat.add_mod_left]
  · rw [← List.append_assoc, strayQuotes_behind other, strayQuotes_behind other]

/-- A text that does not begin with a quote is not spelled with one in front. -/
theorem spelledOut_unquoted (unquoted : c ≠ .quote) (rest : Text) :
    ∃ d others, spelledOut (c :: rest) = d :: others ∧ d ≠ .quote := by
  by_cases escapes : c = .backslash
  · subst escapes
    exact ⟨_, _, spelledOut_backslash rest, by decide⟩
  · exact ⟨_, _, spelledOut_plain escapes unquoted, unquoted⟩

/-- Where a quote is followed by fewer than two others and something else comes behind them,
the spelling has no triple quote either. -/
theorem after?_spelledOut (absent : after? rest [.quote, .quote] = none)
    (mixed : ∃ c ∈ rest, c ≠ .quote) (behind : Text) :
    after? (spelledOut rest ++ behind) [.quote, .quote] = none := by
  cases rest with
  | nil => simp at mixed
  | cons c rest =>
    by_cases quoted : c = .quote
    · subst quoted
      cases rest with
      | nil => simp at mixed
      | cons d rest =>
        have unquoted : d ≠ .quote := by
          rintro rfl
          cases absent.symm.trans (after?_lead [.quote, .quote] rest)
        have alone : after? (d :: rest) [.quote, .quote] = none := by simp [after?, unquoted]
        obtain ⟨e, others, spelled, other⟩ := spelledOut_unquoted unquoted rest
        rw [spelledOut_quote alone, spelled]
        simp [after?, other]
    · obtain ⟨e, others, spelled, other⟩ := spelledOut_unquoted quoted rest
      rw [spelled]
      simp [after?, other]

end Text

open Text

/-- A text that is spelled out is read up to its stray quotes. With them in front the closing
quotes come early, and as many quotes are left behind. By induction along the spelling. -/
theorem readLiteralBody_spelledOut (text behind : Text) :
    ∃ said, said ++ strayQuotes text = text ∧
      readLiteralBody (spelledOut text ++ (tripleQuote ++ behind)) =
        some (said, strayQuotes text ++ behind) := by
  induction text using spelling_induction with
  | nil =>
    refine ⟨[], rfl, ?_⟩
    rw [spelledOut_nil, List.nil_append, readLiteralBody_closed]
    rfl
  | backslash rest inductionHypothesis =>
    obtain ⟨said, split, read⟩ := inductionHypothesis
    have same := strayQuotes_behind (show CodePoint.backslash ≠ .quote by decide) [] rest
    rw [List.nil_append] at same
    refine ⟨.backslash :: said, by rw [same, List.cons_append, split], ?_⟩
    rw [spelledOut_backslash, same, List.cons_append, List.cons_append, readLiteralBody_escape,
      read]
    rfl
  | quotes tail inductionHypothesis =>
    obtain ⟨said, split, read⟩ := inductionHypothesis
    refine ⟨tripleQuote ++ said, by rw [strayQuotes_tripleQuote, List.append_assoc, split], ?_⟩
    rw [spelledOut_quotes, strayQuotes_tripleQuote]
    simp only [List.cons_append, List.nil_append, readLiteralBody_escape, read]
    rfl
  | quote rest absent inductionHypothesis =>
    obtain all | ⟨front, c, back, rest_eq, other⟩ := quotes_or_other rest
    · -- One or two quotes are all that is left: with the closing ones they make up three.
      have few : rest = [] ∨ rest = [.quote] := by
        generalize rest.length = count at all
        subst all
        match count with
        | 0 => exact .inl rfl
        | 1 => exact .inr rfl
        | count + 2 => cases absent.symm.trans (after?_lead [.quote, .quote] _)
      refine ⟨[], ?_, ?_⟩
      · obtain rfl | rfl := few <;> rfl
      · obtain rfl | rfl := few
        · rw [spelledOut_quote rfl, spelledOut_nil]
          exact readLiteralBody_closed (.quote :: behind)
        · rw [spelledOut_quote rfl, spelledOut_quote rfl, spelledOut_nil]
          exact readLiteralBody_closed (.quote :: .quote :: behind)
    · obtain ⟨said, split, read⟩ := inductionHypothesis
      have mixed : ∃ c ∈ rest, c ≠ .quote := ⟨c, by rw [rest_eq]; simp, other⟩
      have same : strayQuotes (.quote :: rest) = strayQuotes rest := by
        rw [rest_eq, ← List.cons_append, strayQuotes_behind other, strayQuotes_behind other]
      have unclosed : after? (.quote :: (spelledOut rest ++ (tripleQuote ++ behind))) tripleQuote =
          none := by
        simpa [tripleQuote, after?] using after?_spelledOut absent mixed (tripleQuote ++ behind)
      refine ⟨.quote :: said, by rw [same, List.cons_append, split], ?_⟩
      rw [spelledOut_quote absent, List.cons_append,
        readLiteralBody_plain (by decide) unclosed, read, same]
      rfl
  | plain c rest unescaped unquoted inductionHypothesis =>
    obtain ⟨said, split, read⟩ := inductionHypothesis
    have same := strayQuotes_behind unquoted [] rest
    rw [List.nil_append] at same
    refine ⟨c :: said, by rw [same, List.cons_append, split], ?_⟩
    have unclosed : after? (c :: (spelledOut rest ++ (tripleQuote ++ behind))) tripleQuote =
        none := by
      simp [tripleQuote, after?, unquoted]
    rw [spelledOut_plain unescaped unquoted, List.cons_append,
      readLiteralBody_plain unescaped unclosed, read, same]
    rfl

/-! ## Docstrings -/

namespace Text

variable {c : CodePoint} {rest : Text}

/-- Two quotes do not come about in front of another code point. -/
theorem after?_quotes_append (absent : after? rest [.quote, .quote] = none) (other : c ≠ .quote)
    (back : Text) : after? (rest ++ c :: back) [.quote, .quote] = none := by
  match rest with
  | [] => simp [after?, other]
  | [d] => by_cases quoted : d = .quote <;> simp [after?, other, quoted]
  | d :: e :: rest =>
    rw [after?_local (by simp), absent]
    rfl

/-- What is neither a quote nor a backslash divides the spelling. -/
theorem spelledOut_append (unescaped : c ≠ .backslash) (unquoted : c ≠ .quote)
    (front back : Text) :
    spelledOut (front ++ c :: back) = spelledOut front ++ c :: spelledOut back := by
  induction front using spelling_induction with
  | nil =>
    rw [spelledOut_nil, List.nil_append, List.nil_append, spelledOut_plain unescaped unquoted]
  | backslash rest inductionHypothesis =>
    rw [List.cons_append, spelledOut_backslash, spelledOut_backslash, inductionHypothesis]
    rfl
  | quotes tail inductionHypothesis =>
    rw [List.append_assoc, spelledOut_quotes, spelledOut_quotes, inductionHypothesis]
    rfl
  | quote rest absent inductionHypothesis =>
    rw [List.cons_append, spelledOut_quote (after?_quotes_append absent unquoted back),
      spelledOut_quote absent, inductionHypothesis]
    rfl
  | plain d rest other foreign inductionHypothesis =>
    rw [List.cons_append, spelledOut_plain other foreign, spelledOut_plain other foreign,
      inductionHypothesis]
    rfl

/-- The spelling adds backslashes and quotes only. -/
theorem mem_spelledOut (unescaped : c ≠ .backslash) (unquoted : c ≠ .quote) {text : Text} :
    c ∈ spelledOut text ↔ c ∈ text := by
  induction text using spelling_induction with
  | nil => rw [spelledOut_nil]
  | backslash rest inductionHypothesis =>
    simp [spelledOut_backslash, unescaped, inductionHypothesis]
  | quotes tail inductionHypothesis =>
    rw [spelledOut_quotes]
    simp [tripleQuote, unescaped, unquoted, inductionHypothesis]
  | quote rest absent inductionHypothesis =>
    simp [spelledOut_quote absent, unquoted, inductionHypothesis]
  | plain d rest other foreign inductionHypothesis =>
    simp [spelledOut_plain other foreign, inductionHypothesis]

/-- The text that a docstring is to say: a text of several lines is ended with a line feed. -/
def completed (text : Text) : Text :=
  if .lineFeed ∈ text then text ++ [.lineFeed] else text

end Text

/-- A docstring is the spelling of the completed text between triple quotes. -/
theorem docstring_eq (text : Text) :
    Layout.docstring text = tripleQuote ++ (spelledOut (completed text) ++ tripleQuote) := by
  have feed : Text.contains .lineFeed (spelledOut text) = decide (.lineFeed ∈ text) := by
    rw [Text.contains, Bool.eq_iff_iff, List.any_eq_true, decide_eq_true_eq,
      ← mem_spelledOut (show CodePoint.lineFeed ≠ .backslash by decide) (by decide)]
    simp
  change (if Text.contains .lineFeed (spelledOut text) then
    Text.concat [tripleQuote, spelledOut text, [.lineFeed], tripleQuote]
    else Text.concat [tripleQuote, spelledOut text, tripleQuote]) = _
  rw [feed, completed]
  by_cases several : CodePoint.lineFeed ∈ text
  · rw [if_pos several, if_pos (by simpa using several),
      spelledOut_append (by decide) (by decide), spelledOut_nil]
    simp [Text.concat]
  · rw [if_neg several, if_neg (by simpa using several)]
    simp [Text.concat]

/-! ## Lines of a docstring -/

namespace Text

variable {part mark rest last current text : Text} {lines : List Text}

/-- The end of a line in front of a text: a single code point, or a carriage return together
with the line feed behind it. -/
inductive LineEnd : Text → Text → Prop where
  | single {c : CodePoint} {rest : Text} (ends : c.isLineEnd = true)
      (other : c ≠ .carriageReturn) : LineEnd [c] rest
  | lone {rest : Text} (alone : Halts (fun c => decide (c = .lineFeed)) rest) :
      LineEnd [.carriageReturn] rest
  | pair {rest : Text} : LineEnd [.carriageReturn, .lineFeed] rest

/-- A text cut at its line ends: the lines that are ended, and the part behind them. -/
inductive Broken : Text → List Text → Text → Prop where
  | part {part : Text} (line : part.OnOneLine) : Broken part [] part
  | more {part mark rest last : Text} {lines : List Text} (line : part.OnOneLine)
      (ends : LineEnd mark rest) (further : Broken rest lines last) :
      Broken (part ++ (mark ++ rest)) (part :: lines) last

/-- What is nothing or goes on with a new line. -/
def OnNewLine (behind : Text) : Prop := behind = [] ∨ ∃ more, behind = .lineFeed :: more

/-- A line end closes the current line. -/
theorem linesFrom_end (ends : LineEnd mark rest) :
    linesFrom current (mark ++ rest) = current.reverse :: linesFrom [] rest := by
  cases ends with
  | single ends other =>
    rw [List.singleton_append, linesFrom.eq_def]
    simp only [other, ends, ↓reduceIte]
  | lone alone =>
    cases rest with
    | nil => simp [linesFrom]
    | cons d rest =>
      have other : d ≠ .lineFeed := by simpa [Halts] using alone
      rw [List.singleton_append, linesFrom.eq_def]
      simp [other]
  | pair =>
    rw [List.cons_append, List.singleton_append, linesFrom.eq_def]
    simp

/-- A part of a line joins the current line. -/
theorem linesFrom_part (line : part.OnOneLine) :
    linesFrom current (part ++ rest) = linesFrom (part.reverse ++ current) rest := by
  induction part generalizing current with
  | nil => rfl
  | cons c part inductionHypothesis =>
    obtain ⟨plain, further⟩ := List.forall_mem_cons.mp line
    have other : c ≠ .carriageReturn := by
      rintro rfl
      exact absurd plain (by decide)
    rw [List.cons_append, linesFrom.eq_def]
    simp only [other, plain, Bool.false_eq_true, ↓reduceIte]
    rw [inductionHypothesis further]
    simp

/-- A line is closed where a text ends or goes on with a new line. -/
theorem linesFrom_closed {behind : Text} (line : part.OnOneLine) (given : part ≠ [])
    (closed : OnNewLine behind) :
    linesFrom [] (part ++ behind) = part :: linesFrom [] (behind.drop 1) := by
  obtain rfl | ⟨more, rfl⟩ := closed
  · rw [List.append_nil, linesFrom_eq line (by simpa using given)]
    simp [linesFrom]
  · rw [linesFrom_part line, ← List.singleton_append,
      linesFrom_end (.single (by decide) (by decide))]
    simp

/-- What is put in front of the first line belongs to it. -/
theorem Broken.cons {c : CodePoint} (plain : c.isLineEnd = false)
    (broken : Broken text lines last) : ∃ lines last, Broken (c :: text) lines last := by
  cases broken with
  | part line => exact ⟨_, _, .part (List.forall_mem_cons.mpr ⟨plain, line⟩)⟩
  | more line ends further =>
    exact ⟨_, _, .more (List.forall_mem_cons.mpr ⟨plain, line⟩) ends further⟩

/-- Every text can be cut at its line ends. -/
theorem exists_broken (text : Text) : ∃ lines last, Broken text lines last := by
  have none : OnOneLine [] := fun _ member => nomatch member
  induction text using normalizeNewlines.induct with
  | case1 => exact ⟨_, _, .part none⟩
  | case2 rest inductionHypothesis =>
    obtain ⟨lines, last, broken⟩ := inductionHypothesis
    exact ⟨_, _, .more none .pair broken⟩
  | case3 d rest other inductionHypothesis =>
    obtain ⟨lines, last, broken⟩ := inductionHypothesis
    exact ⟨_, _, .more none (.lone (.cons (by simpa using other))) broken⟩
  | case4 => exact ⟨_, _, .more none (.lone .nil) (.part none)⟩
  | case5 c rest other inductionHypothesis =>
    obtain ⟨lines, last, broken⟩ := inductionHypothesis
    cases ends : c.isLineEnd with
    | false => exact broken.cons ends
    | true => exact ⟨_, _, .more none (.single ends other) broken⟩

/-- No line feed is spelled in front of a text that does not begin with one. -/
theorem halts_spelledOut (halts : Halts (fun c => decide (c = .lineFeed)) text) :
    Halts (fun c => decide (c = .lineFeed)) (spelledOut text) := by
  induction text using spelling_induction with
  | nil =>
    rw [spelledOut_nil]
    exact .nil
  | backslash rest => exact spelledOut_backslash rest ▸ .cons (by decide)
  | quotes tail => exact spelledOut_quotes tail ▸ .cons (by decide)
  | quote rest absent => exact spelledOut_quote absent ▸ .cons (by decide)
  | plain c rest unescaped unquoted =>
    exact spelledOut_plain unescaped unquoted ▸ .cons (halts c rfl)

/-- A line end is none of what is spelled otherwise. -/
theorem ne_of_isLineEnd {c : CodePoint} (ends : c.isLineEnd = true) :
    c ≠ .backslash ∧ c ≠ .quote := by
  constructor <;> rintro rfl <;> exact absurd ends (by decide)

/-- A line end divides the spelling. -/
theorem LineEnd.spelledOut (ends : LineEnd mark rest) (front : Text) :
    LineEnd mark (spelledOut rest) ∧
      spelledOut (front ++ (mark ++ rest)) = spelledOut front ++ (mark ++ spelledOut rest) := by
  cases ends with
  | single ends other =>
    obtain ⟨unescaped, unquoted⟩ := ne_of_isLineEnd ends
    exact ⟨.single ends other, spelledOut_append unescaped unquoted front rest⟩
  | lone alone =>
    exact ⟨.lone (halts_spelledOut alone), spelledOut_append (by decide) (by decide) front rest⟩
  | pair =>
    refine ⟨.pair, (spelledOut_append (by decide) (by decide) front (.lineFeed :: rest)).trans ?_⟩
    rw [spelledOut_plain (by decide) (by decide)]
    rfl

/-- A spelling ends no line that the text does not end. -/
theorem OnOneLine.spelledOut (line : text.OnOneLine) : (spelledOut text).OnOneLine := by
  intro c member
  by_contra ends
  obtain ⟨unescaped, unquoted⟩ := ne_of_isLineEnd (by simpa using ends)
  exact ends (line c ((mem_spelledOut unescaped unquoted).mp member))

/-- The lines of a spelling are the spellings of the lines. -/
theorem Broken.spelledOut (broken : Broken text lines last) :
    Broken (spelledOut text) (lines.map spelledOut) (spelledOut last) := by
  induction broken with
  | part line => exact .part line.spelledOut
  | more line ends further inductionHypothesis =>
    obtain ⟨still, divided⟩ := ends.spelledOut _
    rw [divided]
    exact .more line.spelledOut still inductionHypothesis

/-- A line end stays one in front of more that does not begin with a line feed. -/
theorem LineEnd.append {more : Text} (ends : LineEnd mark rest)
    (halts : Halts (fun c => decide (c = .lineFeed)) more) : LineEnd mark (rest ++ more) := by
  cases ends with
  | single ends other => exact .single ends other
  | lone alone => exact .lone (alone.append halts)
  | pair => exact .pair

/-- Behind the lines that are ended stands what is put behind the text. -/
theorem Broken.splitLines (broken : Broken text lines last) {tail behind : Text}
    (line : tail.OnOneLine) (given : tail ≠ []) (closed : OnNewLine behind) :
    splitLines (text ++ (tail ++ behind)) =
      lines ++ (last ++ tail) :: linesFrom [] (behind.drop 1) := by
  induction broken with
  | part front =>
    rw [← List.append_assoc]
    exact linesFrom_closed (front.append line) (by simp [given]) closed
  | more front ends further inductionHypothesis =>
    have halts : Halts (fun c => decide (c = .lineFeed)) (tail ++ behind) := by
      obtain ⟨c, rest, rfl⟩ := List.exists_cons_of_ne_nil given
      refine .cons (decide_eq_false ?_)
      rintro rfl
      exact absurd (line _ (.head _)) (by decide)
    rw [Text.splitLines, List.append_assoc, List.append_assoc, linesFrom_part front,
      linesFrom_end (ends.append halts), ← Text.splitLines, inductionHypothesis]
    simp

/-! ## Indented docstrings -/

/-- A line as it is indented. -/
def indentedLine (width : Nat) (line : Text) : Text :=
  if isBlank line then [] else blanks width ++ line

/-- Lines that are ended, and a last one that is not, as they are indented. -/
def laidOut (width : Nat) (lines : List Text) (last : Text) : Text :=
  lines.flatMap (fun line => indentedLine width line ++ [.lineFeed]) ++ (blanks width ++ last)

/-- The spelling is blank where the text is. -/
theorem isBlank_spelledOut (text : Text) : isBlank (spelledOut text) = isBlank text := by
  induction text using spelling_induction with
  | nil => rw [spelledOut_nil]
  | backslash rest => rw [spelledOut_backslash]; rfl
  | quotes tail => rw [spelledOut_quotes]; rfl
  | quote rest absent => rw [spelledOut_quote absent]; rfl
  | plain c rest unescaped unquoted inductionHypothesis =>
    rw [spelledOut_plain unescaped unquoted]
    exact congrArg (c.isSpace && ·) inductionHypothesis

/-- Blanks are spelled as they are. -/
theorem spelledOut_blanks (width : Nat) (text : Text) :
    spelledOut (blanks width ++ text) = blanks width ++ spelledOut text := by
  induction width with
  | zero => rfl
  | succ width inductionHypothesis =>
    exact (spelledOut_plain (by decide) (by decide)).trans
      (congrArg (CodePoint.ofChar ' ' :: ·) inductionHypothesis)

/-- A line can be indented before it is spelled. -/
theorem spelledOut_indentedLine (width : Nat) (line : Text) :
    spelledOut (indentedLine width line) = indentedLine width (spelledOut line) := by
  rw [indentedLine, indentedLine, isBlank_spelledOut]
  split
  · exact spelledOut_nil
  · exact spelledOut_blanks width line

/-- A line comes in front of the other ones. -/
theorem laidOut_cons (width : Nat) (line : Text) (lines : List Text) (last : Text) :
    laidOut width (line :: lines) last =
      indentedLine width line ++ .lineFeed :: laidOut width lines last := by
  simp [laidOut]

/-- Lines can be laid out before they are spelled. -/
theorem spelledOut_laidOut (width : Nat) (lines : List Text) (last : Text) :
    spelledOut (laidOut width lines last) =
      laidOut width (lines.map spelledOut) (spelledOut last) := by
  induction lines with
  | nil => exact spelledOut_blanks width last
  | cons line lines inductionHypothesis =>
    rw [List.map_cons, laidOut_cons, laidOut_cons, spelledOut_append (by decide) (by decide),
      spelledOut_indentedLine, inductionHypothesis]

/-- Behind a line feed the stray quotes of a text are those of its last line. -/
theorem strayQuotes_laidOut (width : Nat) (lines : List Text) (front last : Text) :
    strayQuotes (front ++ .lineFeed :: laidOut width lines last) = strayQuotes last := by
  induction lines generalizing front with
  | nil =>
    cases width with
    | zero => exact strayQuotes_behind (by decide) front last
    | succ width =>
      have split : front ++ .lineFeed :: laidOut (width + 1) [] last =
          (front ++ .lineFeed :: blanks width) ++ CodePoint.ofChar ' ' :: last := by
        simp [laidOut, blanks, List.replicate_succ']
      rw [split, strayQuotes_behind (by decide)]
  | cons line lines inductionHypothesis =>
    have split : front ++ .lineFeed :: laidOut width (line :: lines) last =
        (front ++ .lineFeed :: indentedLine width line) ++
          .lineFeed :: laidOut width lines last := by
      simp [laidOut_cons]
    rw [split, inductionHypothesis]

/-- The stray quotes of a text are those of its last line. -/
theorem Broken.strayQuotes (broken : Broken text lines last) :
    strayQuotes text = strayQuotes last := by
  induction broken with
  | part line => rfl
  | more line ends further inductionHypothesis =>
    rw [← inductionHypothesis]
    cases ends with
    | single ends other => exact strayQuotes_behind (ne_of_isLineEnd ends).2 _ _
    | lone alone => exact strayQuotes_behind (by decide) _ _
    | pair =>
      rw [List.cons_append, List.singleton_append, ← List.singleton_append, ← List.append_assoc]
      exact strayQuotes_behind (by decide) _ _

/-- Lines that are joined each come behind a line feed, but for the first. -/
theorem join_behind (line : Text) (lines : List Text) :
    join [.lineFeed] (line :: lines) = line ++ lines.flatMap (.lineFeed :: ·) := by
  induction lines generalizing line with
  | nil => simp [join]
  | cons next lines inductionHypothesis =>
    rw [join_cons _ _ (List.cons_ne_nil next lines), inductionHypothesis]
    simp

/-- Indented lines are joined as they are laid out. -/
theorem join_laidOut (width : Nat) (lines others : List Text) (last : Text) :
    join [.lineFeed] (lines.map (indentedLine width) ++ (blanks width ++ last) :: others) =
      laidOut width lines last ++ others.flatMap (.lineFeed :: ·) := by
  induction lines with
  | nil => exact join_behind _ others
  | cons line lines inductionHypothesis =>
    rw [List.map_cons, List.cons_append, join_cons _ _ (by simp), inductionHypothesis,
      laidOut_cons]
    simp

/-- A line that can be seen is indented. -/
theorem indentedLine_visible {c : CodePoint} {line : Text} (width : Nat) (member : c ∈ line)
    (visible : c.isSpace = false) : indentedLine width line = blanks width ++ line := by
  have shown : isBlank line = false := List.all_eq_false.mpr ⟨c, member, by simp [visible]⟩
  rw [indentedLine, if_neg (by simp [shown])]

/-- What stands behind a docstring, as it is indented together with it. -/
def indentedBehind (width : Nat) (behind : Text) : Text :=
  ((splitLines (behind.drop 1)).map (indentedLine width)).flatMap (.lineFeed :: ·)

/-- It goes on with a new line as well. -/
theorem indentedBehind_onNewLine (width : Nat) (behind : Text) :
    (indentedBehind width behind).OnNewLine := by
  rw [indentedBehind]
  cases splitLines (behind.drop 1) with
  | nil => exact .inl rfl
  | cons line lines => exact .inr ⟨_, rfl⟩

end Text

/-- An indented docstring is spelled like that of a text with the same quotes at its end. -/
theorem indent_docstring (width : Nat) (text : Text) :
    ∃ laid, strayQuotes laid = strayQuotes (completed text) ∧
      ∀ behind : Text, behind.OnNewLine →
        Layout.indent width (Layout.docstring text ++ behind) =
          blanks width ++ (tripleQuote ++ (spelledOut laid ++
            (tripleQuote ++ indentedBehind width behind))) := by
  have plain : tripleQuote.OnOneLine := by decide
  have quote : CodePoint.quote ∈ tripleQuote := by decide
  have shown (line : Text) (member : CodePoint.quote ∈ line) :
      indentedLine width line = blanks width ++ line :=
    indentedLine_visible width member (by decide)
  have joined (text : Text) : Layout.indent width text =
      join [.lineFeed] ((splitLines text).map (indentedLine width)) := rfl
  rw [docstring_eq]
  generalize completed text = whole
  obtain ⟨lines, last, broken⟩ := exists_broken whole
  cases broken with
  | part line =>
    refine ⟨whole, rfl, fun behind closed => ?_⟩
    have cut := (Broken.part (plain.append line.spelledOut)).splitLines plain (by decide) closed
    rw [← List.append_assoc, List.append_assoc, joined, cut, List.nil_append, List.map_cons,
      shown _ (List.mem_append_right _ quote), join_behind]
    simp [indentedBehind, Text.splitLines]
  | @more part mark rest last lines line ends further =>
    have strays : strayQuotes (part ++ .lineFeed :: laidOut width lines last) =
        strayQuotes (part ++ (mark ++ rest)) :=
      (strayQuotes_laidOut width lines part last).trans
        (Broken.more line ends further).strayQuotes.symm
    refine ⟨_, strays, fun behind closed => ?_⟩
    obtain ⟨still, divided⟩ := ends.spelledOut part
    have cut := (Broken.more (plain.append line.spelledOut) still further.spelledOut).splitLines
      plain (by decide) closed
    have same : tripleQuote ++ (spelledOut (part ++ (mark ++ rest)) ++ tripleQuote) ++ behind =
        tripleQuote ++ spelledOut part ++ (mark ++ spelledOut rest) ++ (tripleQuote ++ behind) := by
      simp [divided]
    rw [same, joined, cut, List.map_append, List.map_cons, List.map_cons,
      shown _ (List.mem_append_left _ quote), shown _ (List.mem_append_right _ quote),
      List.cons_append, join_cons _ _ (by simp), join_laidOut,
      spelledOut_append (by decide) (by decide), spelledOut_laidOut]
    simp [laidOut, indentedBehind, Text.splitLines]

/-- The quotes at the end of a text count for the docstring if no line feed comes behind them
and the last escape leaves some over. -/
theorem strayQuotes_completed (text : Text) :
    strayQuotes (completed text) = [] ↔
      .lineFeed ∈ text ∨ 3 ∣ trailingQuotes text := by
  rw [completed]
  split
  · next several =>
    rw [strayQuotes_behind (by decide)]
    simp [several, strayQuotes, trailingQuotes]
  · next single =>
    simp [single, strayQuotes, Nat.dvd_iff_mod_eq_zero]

/-- A class body is its docstring, and behind it a new line or nothing. -/
theorem classBody_eq (text : Text) (members : List Text) :
    ∃ behind : Text, behind.OnNewLine ∧
      Render.classBody text members = Layout.docstring text ++ behind := by
  cases members with
  | nil => exact ⟨[], .inl rfl, (List.append_nil _).symm⟩
  | cons member members =>
    exact ⟨_, .inr ⟨_, rfl⟩, join_behind (Layout.docstring text) ([] :: member :: members)⟩

/-- Where a docstring ends. For every text the docstring is a literal that says the text, with a
line feed behind it if the text has one, up to the stray quotes of what is to be said; these are
left over behind the literal. There are none exactly if the text has a line feed or ends with a
number of quotes that three divides. In an indented class body the docstring ends in the same
way: no more and no less is left over in front of the members. -/
theorem readLiteral_docstring (text : Text) :
    (∃ said, said ++ strayQuotes (completed text) = completed text ∧
      readLiteral (Layout.docstring text) = some (said, strayQuotes (completed text))) ∧
    (strayQuotes (completed text) = [] ↔ .lineFeed ∈ text ∨ 3 ∣ trailingQuotes text) ∧
    ∀ (width : Nat) (members : List Text), ∃ said behind,
      Layout.indent width (Render.classBody text members) =
        Layout.indent width (Layout.docstring text) ++ behind ∧
      behind.OnNewLine ∧
      readLiteral ((Layout.indent width (Render.classBody text members)).drop width) =
        some (said, strayQuotes (completed text) ++ behind) := by
  have read (whole behind : Text) : ∃ said, said ++ strayQuotes whole = whole ∧
      readLiteral (tripleQuote ++ (spelledOut whole ++ (tripleQuote ++ behind))) =
        some (said, strayQuotes whole ++ behind) := by
    obtain ⟨said, split, read⟩ := readLiteralBody_spelledOut whole behind
    refine ⟨said, split, ?_⟩
    rw [readLiteral, after?_lead, Option.bind_some, read]
  refine ⟨?_, strayQuotes_completed text, fun width members => ?_⟩
  · simpa [docstring_eq] using read (completed text) []
  · obtain ⟨laid, strays, indented⟩ := indent_docstring width text
    obtain ⟨behind, closed, body⟩ := classBody_eq text members
    obtain ⟨said, -, told⟩ := read laid (indentedBehind width behind)
    refine ⟨said, indentedBehind width behind, ?_, indentedBehind_onNewLine width behind, ?_⟩
    · have alone := indented [] (.inl rfl)
      rw [List.append_nil] at alone
      rw [body, indented behind closed, alone]
      simp [indentedBehind, splitLines, linesFrom]
    · rw [body, indented behind closed, List.drop_left' (by simp [blanks]), told, strays]

/-- A docstring that ends early: of the four quotes at its end the first three close it. -/
theorem readLiteral_docstring_early :
    readLiteral (Layout.docstring "say \"hi\"") =
      some (Text.ofString "say \"hi", Text.ofString "\"") := by
  decide +kernel

end SchemaForge

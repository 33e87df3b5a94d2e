import SchemaForge.Proofs.NumberExpressions

/-!
# Numbers in a text

A scan goes from lexeme to lexeme, and every place it gets to is `Reached`. At a place where a
number begins, with a minus sign or a digit, there are two ways to go on. If the longest numeral
there is not followed by what looks like more of a number, the scan emits it, whatever comes of
the text behind. In all other cases the scan of the whole text fails, and the place it reports
is where the number begins and not where the fault was seen.

What is emitted is said by the scan and not by its result, because a scan that fails has no
tokens to show. Where it does not fail, the tokens emitted are the tokens of the text.
-/

namespace SchemaForge

/-! ## Places of a scan -/

/-- A place that the scan of a text gets to: what is in front has been scanned, and what is
behind is left. -/
inductive Reached (text : Text) : Text → Text → Prop where
  | start : Reached text [] text
  | ignored {front rest : Text} {c : CodePoint} (reached : Reached text front (c :: rest))
      (ignored : c.isIgnored = true) : Reached text (front ++ [c]) rest
  | lexeme {front rest : Text} {c : CodePoint} {lexeme : Lexeme}
      (reached : Reached text front (c :: rest)) (significant : c.isIgnored = false)
      (found : Lexeme.read c rest = .ok lexeme) : Reached text (front ++ lexeme.raw) lexeme.rest

/-- A token that the scan of a text emits, even if it fails further on. -/
inductive Emits (text : Text) : Token → Prop where
  | intro {front rest : Text} {c : CodePoint} {lexeme : Lexeme}
      (reached : Reached text front (c :: rest)) (significant : c.isIgnored = false)
      (found : Lexeme.read c rest = .ok lexeme) :
      Emits text (.ofLexeme (.inText text front.length) lexeme)

namespace Reached

variable {text front rest other : Text} {c : CodePoint} {lexeme : Lexeme}

/-- What is in front and what is behind make up the text. -/
theorem split (reached : Reached text front rest) : front ++ rest = text := by
  induction reached with
  | start => rfl
  | ignored _ _ inductionHypothesis => simpa using inductionHypothesis
  | lexeme _ _ found inductionHypothesis =>
    rw [List.append_assoc, Lexeme.raw_append_rest found, inductionHypothesis]

/-- The place of a scan is that behind the front part. -/
theorem place (reached : Reached text front rest) :
    Position.origin.through front = .inText text front.length := by
  rw [← reached.split, Position.inText_append]

/-- The place behind a part of what is left. -/
theorem place_through (reached : Reached text front rest) (part : Text) :
    (Position.inText text front.length).through part = Position.origin.through (front ++ part) := by
  rw [Position.through_append, reached.place]

/-- The scan of a text is that of what is left, behind the tokens emitted so far. -/
theorem tokenize_eq (reached : Reached text front rest) :
    ∃ tokens, (∀ token ∈ tokens, Emits text token) ∧
      tokenize text = (scan (.inText text front.length) rest).map (tokens ++ ·) := by
  induction reached with
  | start =>
    refine ⟨[], by simp, ?_⟩
    change scan .origin text = (scan .origin text).map _
    cases scan .origin text <;> rfl
  | @ignored front rest c reached ignored inductionHypothesis =>
    obtain ⟨tokens, emitted, same⟩ := inductionHypothesis
    have further := Reached.ignored reached ignored
    refine ⟨tokens, emitted, ?_⟩
    rw [same, ← further.place, ← reached.place_through, scan, if_pos ignored]
    rfl
  | @lexeme front rest c lexeme reached significant found inductionHypothesis =>
    obtain ⟨tokens, emitted, same⟩ := inductionHypothesis
    have further := Reached.lexeme reached significant found
    refine ⟨tokens ++ [.ofLexeme (.inText text front.length) lexeme], ?_, ?_⟩
    · rw [List.forall_mem_append, List.forall_mem_singleton]
      exact ⟨emitted, .intro reached significant found⟩
    · rw [same, ← further.place, ← reached.place_through,
        scan_lexeme _ (by simp [significant]) found]
      cases scan ((Position.inText text front.length).through lexeme.raw) lexeme.rest <;>
        simp [Except.map]

/-- What is scanned behind a place is emitted. -/
theorem emits (reached : Reached text front rest) {place : Position} {tokens : List Token}
    (there : place = .inText text front.length) (scanned : scan place rest = .ok tokens) :
    ∀ token ∈ tokens, token.kind ≠ .endOfInput → Emits text token := by
  fun_induction scan place rest generalizing front tokens with
  | case1 place =>
    cases scanned
    simp [Token.finish]
  | case2 place c rest ignored inductionHypothesis =>
    have further := Reached.ignored reached ignored
    refine inductionHypothesis further ?_ scanned
    rw [← further.place, ← reached.place_through, there]
    rfl
  | case3 => cases scanned
  | case4 => cases scanned
  | case5 place c rest significant lexeme found _ later read inductionHypothesis =>
    cases scanned
    subst there
    have plain : c.isIgnored = false := by simpa using significant
    have further := Reached.lexeme reached plain found
    have behind := inductionHypothesis further
      (by rw [← further.place, ← reached.place_through]) read
    rw [List.forall_mem_cons]
    exact ⟨fun _ => .intro reached plain found, behind⟩

/-- The scan of a text fails where no lexeme can be read. -/
theorem fails {fault : LexicalFault} (reached : Reached text front (c :: rest))
    (significant : c.isIgnored = false) (refused : Lexeme.read c rest = .error fault) :
    tokenize text = .error ⟨fault, .inText text front.length⟩ := by
  obtain ⟨tokens, -, same⟩ := reached.tokenize_eq
  rw [same, scan, if_neg (by simp [significant])]
  split
  · next found =>
    cases refused.symm.trans found
    rfl
  · next found => cases refused.symm.trans found

end Reached

/-- Where the scan of a text does not fail, the tokens it emits are the tokens of the text. -/
theorem emits_iff {text : Text} {tokens : List Token} (scanned : tokenize text = .ok tokens)
    {token : Token} (inside : token.kind ≠ .endOfInput) : Emits text token ↔ token ∈ tokens := by
  constructor
  · rintro @⟨front, rest, c, lexeme, reached, significant, found⟩
    obtain ⟨before, -, same⟩ := reached.tokenize_eq
    rw [scanned, scan_lexeme _ (by simp [significant]) found] at same
    cases further : scan ((Position.inText text front.length).through lexeme.raw) lexeme.rest with
    | error error =>
      rw [further] at same
      cases same
    | ok later =>
      rw [further] at same
      rw [Except.ok.inj same]
      exact List.mem_append_right before List.mem_cons_self
  · intro member
    exact Reached.start.emits rfl scanned token member inside

/-! ## Numbers -/

/-- A numeral that stands at the start of a text: the longest one, if nothing behind it looks
like more of a number. -/
structure StandsAhead (text numeral : Text) : Prop where
  /-- No numeral at the start of the text is longer. -/
  longest : LongestMatch NumberExpression.number text numeral
  /-- A number does not go on behind it. -/
  ends : Halts Number.goesOn (text.drop numeral.length)

/-- The token of a numeral at an offset of a text. -/
def Token.ofNumeral (text numeral : Text) (start : Nat) : Token :=
  let place := Position.inText text start
  ⟨NumberExpression.kind numeral, numeral, place.line, place.column, start, start + numeral.length⟩

/-- A number is read where a numeral stands. -/
theorem Lexeme.number_ahead {text : Text} {lexeme : Lexeme} :
    Lexeme.number text = .ok lexeme ↔ ∃ numeral, StandsAhead text numeral ∧
      lexeme = ⟨NumberExpression.kind numeral, numeral, numeral, text.drop numeral.length⟩ := by
  rw [number_iff]
  constructor
  · rintro ⟨numeral, behind, rfl, longest, ends, rfl⟩
    exact ⟨numeral, ⟨longest, by rwa [List.drop_left]⟩, by rw [List.drop_left]⟩
  · rintro ⟨numeral, ⟨longest, ends⟩, rfl⟩
    obtain ⟨behind, rfl⟩ := longest.begins
    rw [List.drop_left] at ends ⊢
    exact ⟨numeral, behind, rfl, longest, ends, rfl⟩

/-- What begins like a number is read as one or not at all. -/
theorem Lexeme.read_leading {c : CodePoint} (rest : Text) (leads : c = '-' ∨ c.isDigit = true) :
    Lexeme.read c rest = Lexeme.number (c :: rest) := by
  have begins : (decide (c = '-') || c.isDigit) = true := by simpa using leads
  have noComment : c ≠ '#' := by rintro rfl; exact absurd begins (by decide)
  have noQuote : c ≠ .quote := by rintro rfl; exact absurd begins (by decide)
  rw [Lexeme.read, if_neg noComment, if_neg noQuote, if_pos begins]

/-- A minus sign and a digit are not ignored. -/
theorem CodePoint.not_isIgnored_of_leading {c : CodePoint} (leads : c = '-' ∨ c.isDigit = true) :
    c.isIgnored = false := by
  have layout : c.isIgnored = true → ¬ (c = '-' ∨ c.isDigit = true) := by
    intro ignored
    simp only [isIgnored, Bool.or_eq_true, decide_eq_true_eq] at ignored
    obtain ((((rfl | rfl) | rfl) | rfl) | rfl) | mark := ignored
    case inr =>
      have same : c = ofNat 0xFEFF := by rw [← mark, ofNat_val]
      rw [same]
      decide
    all_goals decide
  rw [Bool.eq_false_iff]
  exact fun ignored => layout ignored leads

/-- Numbers are scanned by longest match. Where a scan gets to a minus sign or a digit, the one
token that may be emitted is that of the longest numeral, and it is emitted exactly if the
numeral is not followed by what looks like more of a number. It spells what it says. Without
such a numeral the text is no sequence of tokens, and the place of the error is where the number
begins. The tokens emitted are those of the text if the text is a sequence of tokens. -/
theorem tokenize_scansNumbers {text front rest : Text} {c : CodePoint}
    (reached : Reached text front (c :: rest)) (leads : c = '-' ∨ c.isDigit = true) :
    (∀ token, Emits text token ∧ token.start = front.length ↔
      ∃ numeral, StandsAhead (c :: rest) numeral ∧ token = .ofNumeral text numeral front.length) ∧
    (∀ numeral, StandsAhead (c :: rest) numeral →
      text.slice front.length (front.length + numeral.length) = numeral) ∧
    ((¬ ∃ numeral, StandsAhead (c :: rest) numeral) →
      ∃ fault, tokenize text = .error ⟨fault, .inText text front.length⟩) ∧
    ∀ tokens, tokenize text = .ok tokens → ∀ token, token.kind ≠ .endOfInput →
      (Emits text token ↔ token ∈ tokens) := by
  have significant := CodePoint.not_isIgnored_of_leading leads
  refine ⟨?_, ?_, ?_, fun tokens scanned token => emits_iff scanned⟩
  · intro token
    constructor
    · rintro ⟨@⟨other, tail, d, lexeme, there, -, found⟩, starts⟩
      -- The place of a token determines what is in front of it.
      have whole : other ++ d :: tail = front ++ c :: rest := there.split.trans reached.split.symm
      obtain ⟨rfl, ahead⟩ := List.append_inj whole starts
      obtain ⟨rfl, rfl⟩ := List.cons.inj ahead
      rw [Lexeme.read_leading _ leads, Lexeme.number_ahead] at found
      obtain ⟨numeral, stands, rfl⟩ := found
      exact ⟨numeral, stands, rfl⟩
    · rintro ⟨numeral, stands, rfl⟩
      have found := Lexeme.number_ahead.mpr ⟨numeral, stands, rfl⟩
      rw [← Lexeme.read_leading _ leads] at found
      exact ⟨.intro reached significant found, rfl⟩
  · rintro numeral ⟨longest, -⟩
    obtain ⟨behind, split⟩ := longest.begins
    rw [← reached.split, ← split, ← List.length_append, Text.slice_append]
  · intro none
    cases read : Lexeme.read c rest with
    | error fault => exact ⟨fault, reached.fails significant read⟩
    | ok lexeme =>
      rw [Lexeme.read_leading _ leads, Lexeme.number_ahead] at read
      obtain ⟨numeral, stands, -⟩ := read
      exact absurd ⟨numeral, stands⟩ none

/-- A number with all its parts, behind another one and in front of a bracket. -/
def numberText : Text := "4 -1.50e+3]"

/-- It is one token, which is no integer. -/
theorem tokenize_scansNumbers_power :
    Reached numberText "4 " "-1.50e+3]" ∧ Emits numberText ⟨.float, "-1.50e+3", 1, 3, 2, 10⟩ := by
  have first : Lexeme.read '4' " -1.50e+3]" = .ok ⟨.int, "4", "4", " -1.50e+3]"⟩ := rfl
  have reached : Reached numberText "4 " "-1.50e+3]" := .ignored (.lexeme .start rfl first) rfl
  have stands : StandsAhead "-1.50e+3]" "-1.50e+3" := by
    have spelled : ("-1.50e+3" : Text) ∈ NumberExpression.number.matches' := by decide +kernel
    have ends : Halts Number.goesOn "]" := .cons rfl
    exact ⟨Lexeme.longestMatch_of_halts spelled ends, ends⟩
  refine ⟨reached, ?_⟩
  have found := ((tokenize_scansNumbers reached (.inl rfl)).1 _).mpr ⟨_, stands, rfl⟩
  exact found.1

end SchemaForge

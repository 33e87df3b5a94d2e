import SchemaForge.Proofs.LexemeBoundary

/-!
# Scanning one text behind another

A line feed ends every lexeme that is read to its end. So a text that is a sequence of
tokens is the same sequence in front of a line feed, whatever comes behind, and the tokens
behind it are those of the second text at a later place.
-/

namespace SchemaForge

/-! ## Lexemes in front of a line feed -/

namespace Lexeme

/-- A line feed is no more of any lexeme. -/
theorem goesOn_lineFeed (lexeme : Lexeme) : lexeme.goesOn .lineFeed = false := by
  unfold goesOn
  split
  case h_5 =>
    rw [Bool.and_eq_false_iff]
    exact .inr rfl
  all_goals rfl

/-- A lexeme is the same in front of a line feed. -/
theorem read_before {c : CodePoint} {rest : Text} {lexeme : Lexeme}
    (accepted : read c rest = .ok lexeme) (more : Text) :
    read c (rest ++ .lineFeed :: more) =
      .ok (lexeme.followedBy (lexeme.rest ++ .lineFeed :: more)) := by
  have halts : Halts lexeme.goesOn (lexeme.rest ++ .lineFeed :: more) :=
    (read_halts accepted).append (.cons lexeme.goesOn_lineFeed)
  have still := read_followedBy accepted halts
  rwa [← List.append_assoc, raw_tail_append_rest accepted] at still

end Lexeme

/-- A scan takes one lexeme and goes on behind it. -/
theorem scan_lexeme {c : CodePoint} {rest : Text} {lexeme : Lexeme} (place : Position)
    (significant : ¬ c.isIgnored = true) (found : Lexeme.read c rest = .ok lexeme) :
    scan place (c :: rest) =
      (scan (place.through lexeme.raw) lexeme.rest).map
        (fun tokens => Token.ofLexeme place lexeme :: tokens) := by
  rw [scan, if_neg significant]
  split
  · next failed => cases found.symm.trans failed
  · next other same =>
    obtain rfl := Except.ok.inj (found.symm.trans same)
    dsimp only
    cases scan (place.through lexeme.raw) lexeme.rest <;> rfl

/-! ## Places further on -/

/-- A place behind some lines, which are so many code points in all. -/
def Position.shift (lines length : Nat) (place : Position) : Position :=
  ⟨place.offset + length, place.line + lines, place.column⟩

/-- A token behind some lines, which are so many code points in all. -/
def Token.shift (lines length : Nat) (token : Token) : Token :=
  { token with
    line := token.line + lines, start := token.start + length, stop := token.stop + length }

section Places

variable (lines length : Nat)

/-- Shifting commutes with a step. -/
theorem Position.step_shift (place : Position) (c : CodePoint) :
    (place.shift lines length).step c = (place.step c).shift lines length := by
  unfold Position.step Position.shift
  split <;> simp [Nat.add_right_comm]

/-- Shifting commutes with going through a text. -/
theorem Position.through_shift (place : Position) (text : Text) :
    (place.shift lines length).through text = (place.through text).shift lines length := by
  unfold Position.through
  induction text generalizing place with
  | nil => rfl
  | cons c text inductionHypothesis =>
    rw [List.foldl_cons, List.foldl_cons, Position.step_shift, inductionHypothesis]

/-- The token of a lexeme at a later place. -/
theorem Token.ofLexeme_shift (place : Position) (lexeme : Lexeme) :
    Token.ofLexeme (place.shift lines length) lexeme =
      (Token.ofLexeme place lexeme).shift lines length := by
  simp [Token.ofLexeme, Position.shift, Token.shift, Nat.add_right_comm]

/-- The tokens of a text at a later place are its tokens, shifted. -/
theorem scan_shift {place : Position} {text : Text} {tokens : List Token}
    (scanned : scan place text = .ok tokens) :
    scan (place.shift lines length) text = .ok (tokens.map (Token.shift lines length)) := by
  fun_induction scan place text generalizing tokens with
  | case1 place =>
    cases scanned
    rw [scan]
    rfl
  | case2 place c rest ignored inductionHypothesis =>
    rw [scan, if_pos ignored, Position.step_shift]
    exact inductionHypothesis scanned
  | case3 => cases scanned
  | case4 => cases scanned
  | case5 place c rest significant lexeme found _ others read inductionHypothesis =>
    cases scanned
    rw [scan_lexeme _ significant found, Position.through_shift, inductionHypothesis read,
      Token.ofLexeme_shift]
    rfl

end Places

/-! ## Texts one behind the other -/

namespace Position

variable (place : Position)

/-- Going through one text and then another is going through both. -/
theorem through_append (text more : Text) :
    place.through (text ++ more) = (place.through text).through more := List.foldl_append

/-- A text moves the offset by its length and the line by its line feeds. -/
theorem through_offset_line (text : Text) :
    (place.through text).offset = place.offset + text.length ∧
      (place.through text).line = place.line + text.count .lineFeed := by
  unfold through
  induction text generalizing place with
  | nil => exact ⟨rfl, rfl⟩
  | cons c text inductionHypothesis =>
    obtain ⟨offset, line⟩ := inductionHypothesis (place.step c)
    rw [List.foldl_cons, offset, line]
    by_cases feed : c = .lineFeed
    · subst feed
      rw [List.length_cons, List.count_cons_self]
      simp only [step, ↓reduceIte]
      omega
    · rw [List.length_cons, List.count_cons_of_ne feed]
      simp only [step, if_neg feed, and_true]
      omega

/-- Behind a text and a line feed a line begins. -/
theorem through_lineFeed (text : Text) :
    origin.through (text ++ [.lineFeed]) =
      origin.shift (text.count .lineFeed + 1) (text.length + 1) := by
  obtain ⟨offset, line⟩ := through_offset_line origin text
  rw [through_append]
  change (origin.through text).step .lineFeed = _
  simp only [step, ↓reduceIte, offset, line]
  simp [origin, shift, Nat.add_comm]

end Position

/-- The tokens of a text end with the one for the end of input. -/
theorem scan_ends {place : Position} {text : Text} {tokens : List Token}
    (scanned : scan place text = .ok tokens) :
    ∃ body, tokens = body ++ [Token.finish (place.through text)] := by
  fun_induction scan place text generalizing tokens with
  | case1 place =>
    cases scanned
    exact ⟨[], rfl⟩
  | case2 place c rest ignored inductionHypothesis => exact inductionHypothesis scanned
  | case3 => cases scanned
  | case4 => cases scanned
  | case5 place c rest significant lexeme found _ others read inductionHypothesis =>
    cases scanned
    obtain ⟨body, rfl⟩ := inductionHypothesis read
    refine ⟨Token.ofLexeme place lexeme :: body, ?_⟩
    rw [← Position.through_append, Lexeme.raw_append_rest found]
    rfl

/-- The tokens of a text in front of a line feed are its tokens without the end of input,
and then come the tokens of what is behind. -/
theorem scan_before {place : Position} {text more : Text} {tokens others : List Token}
    (scanned : scan place text = .ok tokens)
    (behind : scan (place.through (text ++ [.lineFeed])) more = .ok others) :
    scan place (text ++ .lineFeed :: more) = .ok (tokens.dropLast ++ others) := by
  fun_induction scan place text generalizing tokens with
  | case1 place =>
    cases scanned
    rw [List.nil_append, scan, if_pos (by decide)]
    exact behind
  | case2 place c rest ignored inductionHypothesis =>
    rw [List.cons_append, scan, if_pos ignored]
    exact inductionHypothesis scanned behind
  | case3 => cases scanned
  | case4 => cases scanned
  | case5 place c rest significant lexeme found _ later read inductionHypothesis =>
    cases scanned
    rw [← Lexeme.raw_append_rest found, List.append_assoc, Position.through_append] at behind
    have rest := inductionHypothesis read behind
    obtain ⟨body, rfl⟩ := scan_ends read
    refine (scan_lexeme place significant (Lexeme.read_before found more)).trans ?_
    change (scan (place.through lexeme.raw) (lexeme.rest ++ .lineFeed :: more)).map
      (fun tokens => Token.ofLexeme place lexeme :: tokens) = _
    rw [rest, ← List.cons_append, List.dropLast_concat, List.dropLast_concat]
    rfl

/-- The tokens of two texts with a line feed between them. -/
theorem tokenize_lines {text more : Text} {tokens others : List Token}
    (first : tokenize text = .ok tokens) (second : tokenize more = .ok others) :
    tokenize (text ++ .lineFeed :: more) =
      .ok (tokens.dropLast ++
        others.map (Token.shift (text.count .lineFeed + 1) (text.length + 1))) := by
  refine scan_before first ?_
  rw [Position.through_lineFeed]
  exact scan_shift _ _ second

end SchemaForge

import Mathlib.Data.List.Induction
import SchemaForge.Proofs.ScanComposition

/-!
# Tokens tile the text

The tokens of a text follow one another without overlap. Between two of them, and in front of
the first, stand ignored code points only, so that the spellings and the gaps make up the
text. Places are exact: a line is one more than the line feeds in front of it, and a column
counts from the last of them. This holds behind a block string of several lines too, because
a place is moved through the spelling and not through the value.

A text that is no sequence of tokens breaks off at one lexeme. The place reported is where it
begins, whatever the reader of the lexeme had seen by then, and the text in front of it is a
sequence of tokens by itself.
-/

namespace SchemaForge

/-! ## Pieces and places -/

namespace Text

/-- The piece of a text between two offsets. -/
def slice (text : Text) (start stop : Nat) : Text := (text.take stop).drop start

/-- The piece between two parts. -/
theorem slice_append (front part back : Text) :
    slice (front ++ (part ++ back)) front.length (front ++ part).length = part := by
  rw [slice, ← List.append_assoc, List.take_left, List.drop_left]

/-- Where the last line of a text begins: behind its last line feed, or at offset zero. -/
def lineStart (text : Text) : Nat :=
  (text.reverse.dropWhile (fun c => decide (c ≠ .lineFeed))).length

/-- The last line begins inside the text. -/
theorem lineStart_le (text : Text) : lineStart text ≤ text.length := by
  have shorter := (List.dropWhile_sublist (l := text.reverse)
    (fun c => decide (c ≠ CodePoint.lineFeed))).length_le
  rwa [List.length_reverse] at shorter

end Text

namespace Position

/-- The place at an offset of a text. -/
def inText (text : Text) (offset : Nat) : Position :=
  let front := text.take offset
  ⟨offset, 1 + front.count .lineFeed, offset - Text.lineStart front + 1⟩

/-- Going through a text leads to the place behind it. -/
theorem through_origin (front : Text) :
    origin.through front =
      ⟨front.length, 1 + front.count .lineFeed, front.length - Text.lineStart front + 1⟩ := by
  -- The induction is on the last code point, because that is the one a place is moved by.
  induction front using List.reverseRecOn with
  | nil => rfl
  | append_singleton front c inductionHypothesis =>
    have within := Text.lineStart_le front
    rw [through_append, inductionHypothesis]
    change step _ c = _
    by_cases feed : c = .lineFeed
    · simp [step, feed, Text.lineStart, Nat.add_assoc]
    · have counted : [c].count CodePoint.lineFeed = 0 := by simp [feed]
      simp [step, feed, Text.lineStart, counted] at within ⊢
      omega

/-- The place behind the front part of a text. -/
theorem inText_append (front back : Text) :
    inText (front ++ back) front.length = origin.through front := by
  rw [through_origin, inText, List.take_left]

end Position

/-! ## Tiles -/

/-- A token begins at a place. -/
def Token.place (token : Token) : Position := ⟨token.start, token.line, token.column⟩

/-- Two offsets of a text, one not behind the other, with ignored code points between them. -/
structure Gap (text : Text) (start stop : Nat) : Prop where
  /-- The offsets are in order. -/
  ordered : start ≤ stop
  /-- What stands between them is ignored. -/
  ignored : ∀ c ∈ text.slice start stop, c.isIgnored = true

/-- Tokens that tile a text from an offset on. -/
inductive Tiles (text : Text) : Nat → List Token → Prop where
  /-- The end of input is an empty token at the end of the text. -/
  | finish {offset : Nat} {token : Token} (ended : token.kind = .endOfInput)
      (gap : Gap text offset token.start) (starts : token.start = text.length)
      (stops : token.stop = text.length) (placed : token.place = .inText text token.start) :
      Tiles text offset [token]
  /-- Any other token is not empty, and it says what is spelled between its offsets. -/
  | token {offset : Nat} {token : Token} {tokens : List Token} (inside : token.kind ≠ .endOfInput)
      (gap : Gap text offset token.start) (filled : token.start < token.stop)
      (spells : token.kind.Spells token.value (text.slice token.start token.stop))
      (placed : token.place = .inText text token.start) (further : Tiles text token.stop tokens) :
      Tiles text offset (token :: tokens)

/-- Behind a front part and a gap a scan is at an exact place. -/
theorem gap_before {text front gap back : Text} {place : Position}
    (whole : front ++ (gap ++ back) = text) (there : place = Position.origin.through (front ++ gap))
    (ignored : ∀ c ∈ gap, c.isIgnored = true) :
    place.offset = (front ++ gap).length ∧ Gap text front.length place.offset ∧
      place = .inText text place.offset := by
  have offset : place.offset = (front ++ gap).length := by rw [there, Position.through_origin]
  rw [offset, ← whole]
  refine ⟨rfl, ⟨by simp, ?_⟩, ?_⟩
  · rw [Text.slice_append]
    exact ignored
  · rw [← List.append_assoc, Position.inText_append, there]

/-- The tokens of a text behind a front part and a gap tile the whole. -/
theorem scan_tiles {text front gap back : Text} {place : Position} {tokens : List Token}
    (whole : front ++ (gap ++ back) = text) (there : place = Position.origin.through (front ++ gap))
    (ignored : ∀ c ∈ gap, c.isIgnored = true) (scanned : scan place back = .ok tokens) :
    Tiles text front.length tokens := by
  fun_induction scan place back generalizing front gap tokens with
  | case1 place =>
    cases scanned
    obtain ⟨offset, clear, placed⟩ := gap_before whole there ignored
    have last : place.offset = text.length := by rw [offset, ← whole, List.append_nil]
    exact .finish rfl clear last last placed
  | case2 place c rest isIgnored inductionHypothesis =>
    have wider : front ++ ((gap ++ [c]) ++ rest) = text := by simpa using whole
    have stepped : place.step c = Position.origin.through (front ++ (gap ++ [c])) := by
      rw [← List.append_assoc, Position.through_append, ← there]
      rfl
    refine inductionHypothesis wider stepped ?_ scanned
    intro d member
    obtain member | rfl := (List.mem_append.mp member).imp_right List.mem_singleton.mp
    · exact ignored d member
    · exact isIgnored
  | case3 => cases scanned
  | case4 => cases scanned
  | case5 place c rest significant lexeme found _ later read inductionHypothesis =>
    cases scanned
    obtain ⟨offset, clear, placed⟩ := gap_before whole there ignored
    obtain ⟨inside, spells⟩ := Lexeme.read_spells found
    have spelled := List.length_pos_iff.mpr (Lexeme.raw_ne_nil found)
    rw [← Lexeme.raw_append_rest found, ← List.append_assoc, ← List.append_assoc] at whole
    have stop : (Token.ofLexeme place lexeme).stop = (front ++ gap ++ lexeme.raw).length := by
      rw [List.length_append, ← offset]
      rfl
    have piece : text.slice place.offset (front ++ gap ++ lexeme.raw).length = lexeme.raw := by
      rw [offset, ← whole, List.append_assoc _ lexeme.raw, Text.slice_append]
    refine .token inside clear ?_ ?_ placed ?_
    · exact Nat.lt_add_of_pos_right spelled
    · rw [stop]
      exact piece.symm ▸ spells
    · have passed : place.through lexeme.raw =
          Position.origin.through (front ++ gap ++ lexeme.raw ++ []) := by
        rw [List.append_nil, Position.through_append _ (front ++ gap), ← there]
      rw [stop]
      exact inductionHypothesis whole passed (by simp) read

/-- The tokens of a text tile it. -/
theorem tiles_of_tokenize {text : Text} {tokens : List Token}
    (scanned : tokenize text = .ok tokens) : Tiles text 0 tokens := by
  have whole : [] ++ ([] ++ text) = text := rfl
  exact scan_tiles whole rfl (by simp) scanned

/-! ## Texts that break off -/

/-- A text that is no sequence of tokens breaks off at one lexeme. -/
structure BreaksOff (text : Text) (error : LexicalError) : Prop where
  /-- The place is exact. -/
  placed : error.place = .inText text error.place.offset
  /-- A lexeme begins there that cannot be read. -/
  unfinished : ∃ c rest, text.drop error.place.offset = c :: rest ∧ c.isIgnored = false ∧
    Lexeme.read c rest = .error error.fault
  /-- The text in front of it is a sequence of tokens. -/
  front : ∃ tokens, tokenize (text.take error.place.offset) = .ok tokens

/-- A scan that fails has scanned what is in front of the lexeme that it could not read. -/
theorem scan_breaksOff {place : Position} {text : Text} {error : LexicalError}
    (failed : scan place text = .error error) :
    ∃ front c rest tokens, text = front ++ c :: rest ∧ error.place = place.through front ∧
      c.isIgnored = false ∧ Lexeme.read c rest = .error error.fault ∧
      scan place front = .ok tokens := by
  fun_induction scan place text with
  | case1 => cases failed
  | case2 place c rest ignored inductionHypothesis =>
    obtain ⟨front, d, tail, tokens, rfl, there, significant, refused, scanned⟩ :=
      inductionHypothesis failed
    refine ⟨c :: front, d, tail, tokens, rfl, there, significant, refused, ?_⟩
    rw [scan, if_pos ignored]
    exact scanned
  | case3 place c rest significant fault refused =>
    cases failed
    exact ⟨[], c, rest, _, rfl, rfl, by simpa using significant, refused, scan.eq_1 place⟩
  | case4 place c rest significant lexeme found _ later read inductionHypothesis =>
    cases failed
    obtain ⟨front, d, tail, tokens, split, there, other, refused, scanned⟩ :=
      inductionHypothesis read
    -- The lexeme ends where it ended before, since the text behind it begins as it did or is
    -- missing.
    have halts := Lexeme.read_halts found
    rw [split] at halts
    have still := Lexeme.read_followedBy found halts.front
    refine ⟨lexeme.raw ++ front, d, tail, Token.ofLexeme place lexeme :: tokens, ?_, ?_, other,
      refused, ?_⟩
    · rw [List.append_assoc, ← split, Lexeme.raw_append_rest found]
    · rw [Position.through_append, there]
    · rw [← Lexeme.cons_raw_tail found, List.cons_append, scan_lexeme place significant still]
      change (scan (place.through lexeme.raw) front).map _ = _
      rw [scanned]
      rfl
  | case5 => cases failed

/-- Every text is tiled by its tokens or breaks off at an exact place. -/
theorem tokenize_tiles (text : Text) :
    match tokenize text with
    | .ok tokens => Tiles text 0 tokens
    | .error error => BreaksOff text error := by
  cases scanned : tokenize text with
  | ok tokens => exact tiles_of_tokenize scanned
  | error error =>
    obtain ⟨front, c, rest, tokens, rfl, there, significant, refused, before⟩ :=
      scan_breaksOff scanned
    have offset : error.place.offset = front.length := by rw [there, Position.through_origin]
    refine ⟨?_, ⟨c, rest, ?_, significant, refused⟩, ⟨tokens, ?_⟩⟩
    · rw [offset, Position.inText_append, there]
    · rw [offset, List.drop_left]
    · rw [offset, List.take_left]
      exact before

end SchemaForge

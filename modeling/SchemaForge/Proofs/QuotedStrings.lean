import SchemaForge.Proofs.TokenTiling

/-!
# Quoted strings, item by item

A quoted string is a row of items between two quotes, and each item stands for one code point:
itself, the meaning of a short escape, or the number that four hexadecimal digits spell.
`Denotes` lists these forms with their meaning and knows nothing of the reader.

Both directions hold for rows of any length. Whatever is spelled this way is scanned as one
string with the code points that are meant, and every string that a scan finds in any text is
spelled this way. Two neighbours never act on each other: a surrogate behind a surrogate stays
a code point of its own, and two quotes are an empty string because no item begins with one.
-/

namespace SchemaForge

/-! ## What an item stands for -/

/-- The short escapes: the number of the mark behind the backslash, and the number of the code
point that is meant. -/
def shortEscapes : List (Nat × Nat) :=
  [(0x22, 0x22), (0x5C, 0x5C), (0x2F, 0x2F), (0x62, 0x08), (0x66, 0x0C), (0x6E, 0x0A),
    (0x72, 0x0D), (0x74, 0x09)]

/-- A hexadecimal digit of either case and its value. -/
inductive HexDigit (c : CodePoint) : Nat → Prop where
  | decimal {value : Nat} (bound : value < 10) (spelled : c.val = 0x30 + value) : HexDigit c value
  | small {value : Nat} (bound : value < 6) (spelled : c.val = 0x61 + value) :
      HexDigit c (value + 10)
  | capital {value : Nat} (bound : value < 6) (spelled : c.val = 0x41 + value) :
      HexDigit c (value + 10)

/-- One item of a quoted string: how it is spelled and which code point it stands for. -/
inductive Denotes : Text → CodePoint → Prop where
  /-- A code point stands for itself unless it closes the string, opens an escape or ends the
  line. -/
  | plain {c : CodePoint} (unquoted : c ≠ .quote) (unescaped : c ≠ .backslash)
      (sameLine : c ≠ .lineFeed) (noReturn : c ≠ .carriageReturn) : Denotes [c] c
  /-- A short escape. -/
  | short {mark point : CodePoint} (listed : (mark.val, point.val) ∈ shortEscapes) :
      Denotes [.backslash, mark] point
  /-- The number of a code point in four digits. -/
  | number {first second third fourth point : CodePoint} {a b c d : Nat}
      (one : HexDigit first a) (two : HexDigit second b) (three : HexDigit third c)
      (four : HexDigit fourth d) (numbered : point.val = a * 4096 + b * 256 + c * 16 + d) :
      Denotes [.backslash, ('u' : Char), first, second, third, fourth] point

/-- The digits of the reader are the hexadecimal digits, with their values. -/
theorem hexDigit_iff {c : CodePoint} {value : Nat} :
    HexDigit c value ↔ c.isHexDigit = true ∧ c.hexValue = value := by
  unfold CodePoint.isHexDigit CodePoint.hexValue CodePoint.isDigit CodePoint.between
  simp only [Bool.or_eq_true, Bool.and_eq_true, decide_eq_true_eq]
  simp only [show '0'.toNat = 48 from rfl, show '9'.toNat = 57 from rfl,
    show 'a'.toNat = 97 from rfl, show 'f'.toNat = 102 from rfl, show 'A'.toNat = 65 from rfl,
    show 'F'.toNat = 70 from rfl]
  constructor
  · rintro (⟨bound, spelled⟩ | ⟨bound, spelled⟩ | ⟨bound, spelled⟩) <;> grind
  · rintro ⟨(decimal | small) | capital, rfl⟩
    · rw [if_pos decimal]
      exact .decimal (by omega) (by omega)
    · rw [if_neg (by omega), if_pos small]
      exact .small (by omega) (by omega)
    · rw [if_neg (by omega), if_neg (by omega), if_pos capital]
      exact .capital (by omega) (by omega)

/-- A hexadecimal digit is less than sixteen. -/
theorem HexDigit.lt {c : CodePoint} {value : Nat} (digit : HexDigit c value) : value < 16 := by
  cases digit <;> omega

namespace CodePoint

/-- A code point is the one of its number. -/
theorem ofNat_val (c : CodePoint) : ofNat c.val = c := dif_pos c.valid

/-- The escapes of the reader are the short escapes. -/
theorem escapeMeaning?_iff {mark point : CodePoint} :
    mark.escapeMeaning? = some point ↔ (mark.val, point.val) ∈ shortEscapes := by
  constructor
  · intro meant
    unfold escapeMeaning? at meant
    repeat
      obtain ⟨rfl, rfl⟩ | meant := Lexeme.passed_or_left meant
      · decide
    cases meant
  · have table : ∀ entry ∈ shortEscapes,
        (ofNat entry.1).escapeMeaning? = some (ofNat entry.2) := by decide
    intro listed
    simpa only [ofNat_val] using table _ listed

/-- The mark of a number is no short escape. -/
theorem escapeMeaning?_u : (('u' : Char) : CodePoint).escapeMeaning? = none := by decide

end CodePoint

/-! ## Items and the reader -/

namespace StringItem

/-- The number that four digits spell is that of a code point. -/
theorem value_unicode {first second third fourth : CodePoint} {a b c d : Nat}
    (one : HexDigit first a) (two : HexDigit second b) (three : HexDigit third c)
    (four : HexDigit fourth d) :
    (unicode first second third fourth).value.val = a * 4096 + b * 256 + c * 16 + d := by
  have spelled : Text.toNat 16 [first, second, third, fourth] =
      a * 4096 + b * 256 + c * 16 + d := by
    simp only [Text.toNat, List.foldl, (hexDigit_iff.mp one).2, (hexDigit_iff.mp two).2,
      (hexDigit_iff.mp three).2, (hexDigit_iff.mp four).2]
    omega
  have bound : a * 4096 + b * 256 + c * 16 + d < 0x110000 := by
    have := one.lt
    have := two.lt
    have := three.lt
    have := four.lt
    omega
  rw [value, spelled, CodePoint.ofNat, dif_pos bound]

/-- The reader takes one item at a time, whatever comes behind it. -/
theorem readAll_denoted {raw : Text} {point : CodePoint} (denotes : Denotes raw point)
    (rest : Text) :
    ∃ item, item.spelling = raw ∧ item.value = point ∧
      ∀ {items tail}, readAll rest = .ok (items, tail) →
        readAll (raw ++ rest) = .ok (item :: items, tail) := by
  cases denotes with
  | plain unquoted unescaped sameLine noReturn =>
    refine ⟨.plain point, rfl, rfl, ?_⟩
    intro items tail read
    rw [List.cons_append, List.nil_append, readAll.eq_def]
    simp [unquoted, unescaped, sameLine, noReturn, read]
  | @short mark _ listed =>
    have meant := CodePoint.escapeMeaning?_iff.mpr listed
    refine ⟨.escape mark, rfl, by simp [value, meant], ?_⟩
    intro items tail read
    have other : mark ≠ ('u' : Char) := by
      rintro rfl
      rw [CodePoint.escapeMeaning?_u] at meant
      cases meant
    rw [List.cons_append, List.cons_append, List.nil_append, readAll.eq_def]
    simp [show CodePoint.backslash ≠ .quote by decide,
      show CodePoint.backslash ≠ .lineFeed by decide,
      show CodePoint.backslash ≠ .carriageReturn by decide, other, meant, read]
  | @number first second third fourth _ a b c d one two three four numbered =>
    refine ⟨.unicode first second third fourth, rfl, ?_, ?_⟩
    · have same := (value_unicode one two three four).trans numbered.symm
      rw [← CodePoint.ofNat_val (unicode first second third fourth).value, same,
        CodePoint.ofNat_val]
    · intro items tail read
      simp only [List.cons_append, List.nil_append]
      rw [readAll.eq_def]
      simp [show CodePoint.backslash ≠ .quote by decide,
        show CodePoint.backslash ≠ .lineFeed by decide,
        show CodePoint.backslash ≠ .carriageReturn by decide, (hexDigit_iff.mp one).1,
        (hexDigit_iff.mp two).1, (hexDigit_iff.mp three).1, (hexDigit_iff.mp four).1, read]

/-- Items one behind the other, up to the closing quote. By induction on the row. -/
theorem readAll_row {spellings : List Text} {points : Text}
    (row : List.Forall₂ Denotes spellings points) (rest : Text) :
    ∃ items : List StringItem, items.flatMap spelling = spellings.flatten ∧
      items.map value = points ∧
      readAll (spellings.flatten ++ .quote :: rest) = .ok (items, rest) := by
  induction row with
  | nil => exact ⟨[], rfl, rfl, by rw [List.flatten_nil, List.nil_append, readAll.eq_def]; simp⟩
  | @cons raw point spellings points denotes row inductionHypothesis =>
    obtain ⟨items, spelled, meant, read⟩ := inductionHypothesis
    obtain ⟨item, rfl, rfl, further⟩ :=
      readAll_denoted denotes (spellings.flatten ++ .quote :: rest)
    refine ⟨item :: items, by simp [spelled], by simp [meant], ?_⟩
    rw [List.flatten_cons, List.append_assoc]
    exact further read

/-- What the reader takes is a row of items. By induction along the reader. -/
theorem denotes_of_readAll {text rest : Text} {items : List StringItem}
    (accepted : readAll text = .ok (items, rest)) :
    List.Forall₂ Denotes (items.map spelling) (items.map value) := by
  fun_induction readAll text generalizing items with
  | case2 =>
    cases accepted
    exact .nil
  | case5 first second third fourth tail digits others final read _ _ inductionHypothesis =>
    cases accepted
    refine .cons ?_ (inductionHypothesis read)
    simp only [List.all_cons, List.all_nil, Bool.and_true, Bool.and_eq_true] at digits
    have one : HexDigit first first.hexValue := hexDigit_iff.mpr ⟨digits.1, rfl⟩
    have two : HexDigit second second.hexValue := hexDigit_iff.mpr ⟨digits.2.1, rfl⟩
    have three : HexDigit third third.hexValue := hexDigit_iff.mpr ⟨digits.2.2.1, rfl⟩
    have four : HexDigit fourth fourth.hexValue := hexDigit_iff.mpr ⟨digits.2.2.2, rfl⟩
    exact .number one two three four (value_unicode one two three four)
  | case9 mark tail _ escapes others final read _ _ inductionHypothesis =>
    cases accepted
    refine .cons ?_ (inductionHypothesis read)
    obtain ⟨point, meant⟩ := Option.isSome_iff_exists.mp escapes
    have same : (escape mark).value = point := by simp [value, meant]
    rw [same]
    exact .short (CodePoint.escapeMeaning?_iff.mp meant)
  | case12 c tail unquoted sameLine unescaped others final read inductionHypothesis =>
    cases accepted
    simp only [Bool.or_eq_true, decide_eq_true_eq, not_or] at sameLine
    exact .cons (.plain unquoted unescaped sameLine.1 sameLine.2) (inductionHypothesis read)
  | case1 | case3 | case4 | case6 | case7 | case8 | case10 | case11 | case13 => cases accepted

end StringItem

/-! ## Strings in a text -/

/-- An item does not begin with a quote. -/
theorem Denotes.begins {raw : Text} {point : CodePoint} (denotes : Denotes raw point) :
    ∃ c others, raw = c :: others ∧ c ≠ .quote := by
  cases denotes with
  | plain unquoted => exact ⟨_, _, rfl, unquoted⟩
  | short => exact ⟨_, _, rfl, by decide⟩
  | number => exact ⟨_, _, rfl, by decide⟩

/-- A row of items and the closing quote do not make up a triple quote with the opening one. -/
theorem after?_row {spellings : List Text} {points : Text}
    (row : List.Forall₂ Denotes spellings points) :
    Text.after? (spellings.flatten ++ [.quote]) [.quote, .quote] = none := by
  cases row with
  | nil => rfl
  | cons denotes row =>
    obtain ⟨c, others, rfl, unquoted⟩ := denotes.begins
    simp [Text.after?, unquoted]

/-- A token other than the end of input is the lexeme that is read where it begins. By
induction along the scan. -/
theorem scan_lexemes {place : Position} {text : Text} {tokens : List Token} {token : Token}
    (scanned : scan place text = .ok tokens) (member : token ∈ tokens)
    (inside : token.kind ≠ .endOfInput) :
    ∃ front c rest lexeme, text = front ++ c :: rest ∧ Lexeme.read c rest = .ok lexeme ∧
      token = Token.ofLexeme (place.through front) lexeme := by
  fun_induction scan place text generalizing tokens with
  | case1 place =>
    cases scanned
    obtain rfl := List.mem_singleton.mp member
    exact absurd rfl inside
  | case2 place c rest ignored inductionHypothesis =>
    obtain ⟨front, d, tail, lexeme, rfl, read, same⟩ := inductionHypothesis scanned member
    exact ⟨c :: front, d, tail, lexeme, rfl, read, same⟩
  | case3 => cases scanned
  | case4 => cases scanned
  | case5 place c rest significant lexeme found _ later read inductionHypothesis =>
    cases scanned
    obtain rfl | member := List.mem_cons.mp member
    · exact ⟨[], c, rest, lexeme, rfl, found, rfl⟩
    · obtain ⟨front, d, tail, other, split, read, rfl⟩ := inductionHypothesis read member
      refine ⟨lexeme.raw ++ front, d, tail, other, ?_, read, ?_⟩
      · rw [List.append_assoc, ← split, Lexeme.raw_append_rest found]
      · rw [Position.through_append]

/-- A lexeme that is a string spells a row of items between quotes. -/
theorem Lexeme.read_string {c : CodePoint} {rest : Text} {lexeme : Lexeme}
    (accepted : Lexeme.read c rest = .ok lexeme) (quoted : lexeme.kind = .string) :
    ∃ spellings, List.Forall₂ Denotes spellings lexeme.value ∧
      lexeme.raw = .quote :: (spellings.flatten ++ [.quote]) := by
  cases Lexeme.read_iff.mp accepted with
  | @string tail items _ _ closed =>
    refine ⟨items.map StringItem.spelling, StringItem.denotes_of_readAll closed, ?_⟩
    rw [List.flatMap_def]
  | comment | block | name | spread => cases quoted
  | number begins found =>
    obtain ⟨kind | kind, -⟩ := Lexeme.number_kind found <;> cases kind.symm.trans quoted
  | punctuator mark =>
    have marks : ∀ entry ∈ Lexeme.punctuators, entry.2 ≠ .string := by decide
    exact absurd quoted (marks _ (Lexeme.punctuator_mem mark))

/-- Quoted strings are decoded exactly. A row of items between quotes is one string with the
code points that the items stand for, and each string of a text is such a row at its place,
with these code points as its value. -/
theorem tokenize_decodesStrings :
    (∀ spellings points, List.Forall₂ Denotes spellings points →
      let raw := .quote :: (spellings.flatten ++ [.quote])
      tokenize raw =
        .ok [⟨.string, points, 1, 1, 0, raw.length⟩, .finish (.inText raw raw.length)]) ∧
      ∀ text tokens, tokenize text = .ok tokens → ∀ token ∈ tokens, token.kind = .string →
        ∃ spellings, List.Forall₂ Denotes spellings token.value ∧
          text.slice token.start token.stop = .quote :: (spellings.flatten ++ [.quote]) := by
  constructor
  · intro spellings points row raw
    obtain ⟨items, spelled, meant, read⟩ := StringItem.readAll_row row []
    have found : Lexeme.read .quote (spellings.flatten ++ [.quote]) =
        .ok ⟨.string, points, raw, []⟩ := by
      rw [Lexeme.read_iff]
      have form := Lexeme.Spelled.string (c := .quote) rfl (after?_row row) read
      rwa [meant, spelled] at form
    have ending : Position.inText raw raw.length = Position.origin.through raw := by
      simpa using Position.inText_append raw []
    rw [tokenize, scan_lexeme .origin (by decide) found, ending]
    change (scan (Position.origin.through raw) []).map _ = _
    rw [scan]
    simp [Token.ofLexeme, Except.map, Position.origin]
  · intro text tokens scanned token member quoted
    obtain ⟨front, c, rest, lexeme, rfl, read, rfl⟩ :=
      scan_lexemes scanned member (by rw [quoted]; decide)
    obtain ⟨spellings, row, raw⟩ := Lexeme.read_string read quoted
    refine ⟨spellings, row, ?_⟩
    have offset : (Position.origin.through front).offset = front.length := by
      rw [Position.through_origin]
    rw [← raw, ← Lexeme.raw_append_rest read]
    change Text.slice _ (Position.origin.through front).offset
      ((Position.origin.through front).offset + lexeme.raw.length) = _
    rw [offset, ← List.length_append, Text.slice_append]

/-- A tab, a short escape and the two halves of a pair, which are not joined. -/
theorem tokenize_decodesStrings_surrogates :
    tokenize ("\"\t\\n\\ud83D\\uDE00\"" : Text) =
      .ok [⟨.string, [.tab, .lineFeed, ⟨0xD83D, by decide⟩, ⟨0xDE00, by decide⟩], 1, 1, 0, 17⟩,
        ⟨.endOfInput, [], 1, 18, 17, 17⟩] := by
  have zero : HexDigit ('0' : Char) 0 := .decimal (by decide) rfl
  have three : HexDigit ('3' : Char) 3 := .decimal (by decide) rfl
  have eight : HexDigit ('8' : Char) 8 := .decimal (by decide) rfl
  have smallThirteen : HexDigit ('d' : Char) 13 := .small (by decide) rfl
  have thirteen : HexDigit ('D' : Char) 13 := .capital (by decide) rfl
  have fourteen : HexDigit ('E' : Char) 14 := .capital (by decide) rfl
  have high : Denotes [.backslash, ('u' : Char), ('d' : Char), ('8' : Char), ('3' : Char),
      ('D' : Char)] ⟨0xD83D, by decide⟩ := .number smallThirteen eight three thirteen rfl
  have low : Denotes [.backslash, ('u' : Char), ('D' : Char), ('E' : Char), ('0' : Char),
      ('0' : Char)] ⟨0xDE00, by decide⟩ := .number thirteen fourteen zero zero rfl
  have row : List.Forall₂ Denotes
      [[.tab], [.backslash, ('n' : Char)],
        [.backslash, ('u' : Char), ('d' : Char), ('8' : Char), ('3' : Char), ('D' : Char)],
        [.backslash, ('u' : Char), ('D' : Char), ('E' : Char), ('0' : Char), ('0' : Char)]]
      [.tab, .lineFeed, ⟨0xD83D, by decide⟩, ⟨0xDE00, by decide⟩] :=
    .cons (.plain (by decide) (by decide) (by decide) (by decide))
      (.cons (.short (by decide)) (.cons high (.cons low .nil)))
  exact tokenize_decodesStrings.1 _ _ row

end SchemaForge

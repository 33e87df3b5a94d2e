import SchemaForge.Schema.Scan

/-!
# What may follow a lexeme

A lexeme is decided by its spelling and by at most one code point behind it. `Lexeme.goesOn`
names the code points that would be taken for more of a lexeme: a comment goes on up to a line
end, a number must not be followed by what looks like more of it, and two quotes are no empty
string in front of a third one. What is read in front of one text is read in front of every
other text that does not begin with such a code point.

`Lexeme.Spelled` lists the forms of a lexeme, one for each reader, and `Lexeme.read_iff` says
that these are what is read. Nothing is said about a text in which no lexeme begins: an
unfinished string may well be closed further on.
-/

namespace SchemaForge

/-! ## Runs of code points -/

/-- A text that is empty or begins with a code point that a test refuses. -/
def Halts (test : CodePoint → Bool) (text : Text) : Prop := ∀ c ∈ text.head?, test c = false

namespace Halts

variable {test : CodePoint → Bool} {part rest : Text}

/-- An empty text goes on with nothing. -/
theorem nil : Halts test [] := fun _ none => nomatch none

/-- The first code point decides. -/
theorem cons {c : CodePoint} (refused : test c = false) : Halts test (c :: rest) := by
  intro first found
  obtain rfl := Option.some.inj found
  exact refused

/-- Two texts that halt do so one behind the other. -/
theorem append (front : Halts test part) (behind : Halts test rest) :
    Halts test (part ++ rest) := by
  cases part with
  | nil => exact behind
  | cons c part => exact .cons (front c rfl)

/-- A text that halts does so without what comes behind it. -/
theorem front (halts : Halts test (part ++ rest)) : Halts test part := by
  cases part with
  | nil => exact .nil
  | cons c part => exact .cons (halts c rfl)

/-- What halts one test halts a stricter one. -/
theorem mono {stricter : CodePoint → Bool} (halts : Halts test rest)
    (implies : ∀ c, stricter c = true → test c = true) : Halts stricter rest := by
  intro c first
  have refused := halts c first
  cases passed : stricter c with
  | false => rfl
  | true => rw [implies c passed] at refused; cases refused

/-- A text behind a run of code points does not go on with the run. -/
theorem dropWhile (test : CodePoint → Bool) (text : Text) : Halts test (text.dropWhile test) := by
  intro c first
  have stopped := List.head?_dropWhile_not test text
  rw [Option.mem_def.mp first] at stopped
  exact stopped

/-- A run ends where it halts. -/
theorem takeWhile_append (halts : Halts test rest) (text : Text) :
    (text.takeWhile test ++ rest).takeWhile test = text.takeWhile test := by
  rw [List.takeWhile_append_of_pos (List.all_eq_true.mp List.all_takeWhile)]
  cases rest with
  | nil => simp
  | cons c rest => simp [halts c rfl]

/-- Behind a run comes what it halts at. -/
theorem dropWhile_append (halts : Halts test rest) (text : Text) :
    (text.takeWhile test ++ rest).dropWhile test = rest := by
  rw [List.dropWhile_append_of_pos (List.all_eq_true.mp List.all_takeWhile)]
  cases rest with
  | nil => rfl
  | cons c rest => simp [halts c rfl]

end Halts

namespace Text

/-- Whether a text begins with a lead is decided by as many code points. -/
theorem after?_local {text lead : Text} (long : lead.length ≤ text.length) (rest : Text) :
    after? (text ++ rest) lead = (after? text lead).map (· ++ rest) := by
  induction text generalizing lead with
  | nil =>
    obtain rfl := List.eq_nil_of_length_eq_zero (Nat.le_zero.mp long)
    cases rest <;> rfl
  | cons c text inductionHypothesis =>
    cases lead with
    | nil => rfl
    | cons d lead =>
      simp only [after?, List.cons_append]
      split
      · exact inductionHypothesis (Nat.le_of_succ_le_succ long)
      · rfl

/-- Behind a lead a text goes on as it likes. -/
theorem after?_lead (lead rest : Text) : after? (lead ++ rest) lead = some rest := by
  induction lead with
  | nil => cases rest <;> rfl
  | cons c lead inductionHypothesis => simpa [after?] using inductionHypothesis

end Text

/-! ## Strings -/

/-- The items of a quoted string end with the quote, whatever comes behind it. -/
theorem StringItem.readAll_local {text rest : Text} {items : List StringItem}
    (accepted : readAll text = .ok (items, rest)) (other : Text) :
    readAll (items.flatMap spelling ++ .quote :: other) = .ok (items, other) := by
  fun_induction readAll text generalizing items with
  | case2 =>
    cases accepted
    unfold readAll
    simp
  | case5 =>
    cases accepted
    simp_all [readAll, spelling]
  | case9 | case12 =>
    cases accepted
    simp only [List.flatMap_cons, spelling, List.cons_append, List.nil_append]
    unfold readAll
    simp_all
  | case1 | case3 | case4 | case6 | case7 | case8 | case10 | case11 | case13 => cases accepted

namespace BlockItem

variable {c : CodePoint} {text rest tail : Text}

/-- Three quotes close a block string. -/
theorem readAll_closed (closed : Text.after? (c :: text) tripleQuote = some tail) :
    readAll (c :: text) = some ([], tail) := by
  rw [readAll, closed]

/-- Three quotes behind a backslash are one item. -/
theorem readAll_quotes (unclosed : Text.after? (c :: text) tripleQuote = none)
    (escaped : Text.after? (c :: text) (.backslash :: tripleQuote) = some tail) :
    readAll (c :: text) = (readAll tail).map (fun (items, tail) => (quotes :: items, tail)) := by
  rw [readAll, unclosed]
  dsimp only
  split
  · next found => rw [Option.some.inj (escaped.symm.trans found)]
  · next found => cases escaped.symm.trans found

/-- Any other code point stands for itself. -/
theorem readAll_plain (unclosed : Text.after? (c :: text) tripleQuote = none)
    (unescaped : Text.after? (c :: text) (.backslash :: tripleQuote) = none) :
    readAll (c :: text) = (readAll text).map (fun (items, tail) => (plain c :: items, tail)) := by
  rw [readAll, unclosed]
  dsimp only
  split
  · next found => cases unescaped.symm.trans found
  · rfl

/-- The items of a block string end with the quotes, whatever comes behind them. What is no
quotes in front of the closing ones is decided by the closing ones at the latest. -/
theorem readAll_local {items : List BlockItem} (accepted : readAll text = some (items, rest))
    (other : Text) :
    readAll (items.flatMap spelling ++ (tripleQuote ++ other)) = some (items, other) := by
  fun_induction readAll text generalizing items with
  | case1 => cases accepted
  | case2 c text tail closed =>
    cases accepted
    exact readAll_closed (Text.after?_lead tripleQuote other)
  | case3 c text unclosed tail escaped _ inductionHypothesis =>
    obtain ⟨⟨others, last⟩, followed, same⟩ := Option.map_eq_some_iff.mp accepted
    cases same
    refine (readAll_quotes rfl (Text.after?_lead (.backslash :: tripleQuote) _)).trans ?_
    exact congrArg (Option.map _) (inductionHypothesis followed)
  | case4 c text unclosed unescaped inductionHypothesis =>
    obtain ⟨⟨others, last⟩, followed, same⟩ := Option.map_eq_some_iff.mp accepted
    cases same
    have decided {lead : Text} (short : lead.length ≤ 4)
        (absent : Text.after? (c :: text) lead = none) :
        Text.after? (c :: (others.flatMap spelling ++ (tripleQuote ++ other))) lead = none := by
      have long : lead.length ≤ (c :: (others.flatMap spelling ++ tripleQuote)).length := by
        simp only [tripleQuote, List.length_cons, List.length_append, List.length_nil]
        omega
      rw [spelling_readAll followed, ← List.append_assoc, ← List.cons_append,
        Text.after?_local long, Option.map_eq_none_iff] at absent
      rw [← List.append_assoc, ← List.cons_append, Text.after?_local long, absent]
      rfl
    refine (readAll_plain (decided (by decide) unclosed) (decided (by decide) unescaped)).trans ?_
    exact congrArg (Option.map _) (inductionHypothesis followed)

end BlockItem

/-! ## Numbers -/

namespace Number

variable {text part rest : Text}

/-- A part of a number that a reader finds in front of every text that halts a test. -/
def FoundBefore (reader : Text → Except LexicalFault (Text × Text)) (test : CodePoint → Bool)
    (part : Text) : Prop :=
  ∀ {other : Text}, Halts test other → reader (part ++ other) = .ok (part, other)

/-- A part of a number that begins with a digit. -/
def BeginsWithDigit (part : Text) : Prop := ∃ d further, part = d :: further ∧ d.isDigit = true

/-- A digit halts every test that refuses digits. -/
theorem BeginsWithDigit.halts {test : CodePoint → Bool} (begins : BeginsWithDigit part)
    (refuses : ∀ d, d.isDigit = true → test d = false) (rest : Text) :
    Halts test (part ++ rest) := by
  obtain ⟨d, further, rfl, digit⟩ := begins
  exact .cons (refuses d digit)

/-- A digit is no sign. -/
theorem not_sign_of_digit {d : CodePoint} (digit : d.isDigit = true) :
    decide (d = '+') = false ∧ decide (d = '-') = false := by
  constructor <;> (rw [decide_eq_false_iff_not]; rintro rfl; exact absurd digit (by decide))

/-- A part that is not empty begins as the text does. -/
theorem exists_cons_of_append {c : CodePoint} (split : part ++ rest = c :: text)
    (some : part ≠ []) : ∃ further, part = c :: further := by
  obtain ⟨d, further, rfl⟩ := List.exists_cons_of_ne_nil some
  obtain ⟨rfl, -⟩ := List.cons.inj split
  exact ⟨further, rfl⟩

/-- A run of digits is found in front of what is no digit. -/
theorem readDigits_found (accepted : readDigits text = .ok (part, rest)) :
    FoundBefore readDigits CodePoint.isDigit part ∧ Halts CodePoint.isDigit rest ∧
      BeginsWithDigit part := by
  cases text with
  | nil => cases accepted
  | cons c text =>
    simp only [readDigits] at accepted
    split at accepted
    · next digit =>
      cases accepted
      have begins := List.takeWhile_cons_of_pos (l := text) digit
      refine ⟨?_, .dropWhile _ _, ⟨c, _, begins, digit⟩⟩
      intro other halts
      have taken := halts.takeWhile_append (c :: text)
      have dropped := halts.dropWhile_append (c :: text)
      rw [begins, List.cons_append] at taken dropped ⊢
      rw [readDigits, if_pos digit, taken, dropped]
    · cases accepted

/-- A sign is found in front of what is none. -/
theorem readSign_found (text : Text) {other : Text}
    (halts : Halts (fun c => decide (c = '-')) other) :
    readSign ((readSign text).1 ++ other) = ((readSign text).1, other) := by
  have unsigned : readSign other = ([], other) := by
    cases other with
    | nil => rfl
    | cons c other => exact if_neg (of_decide_eq_false (halts c rfl))
  cases text with
  | nil => exact unsigned
  | cons c text =>
    by_cases sign : c = '-'
    · simp [readSign, sign]
    · simpa [readSign, sign] using unsigned

/-- The sign of an exponent is found in front of what is none. -/
theorem readExponentSign_found (text : Text) {other : Text}
    (halts : Halts (fun c => decide (c = '+') || decide (c = '-')) other) :
    readExponentSign ((readExponentSign text).1 ++ other) = ((readExponentSign text).1, other) := by
  have unsigned : readExponentSign other = ([], other) := by
    cases other with
    | nil => rfl
    | cons c other => exact if_neg (by simp [halts c rfl])
  cases text with
  | nil => exact unsigned
  | cons c text =>
    by_cases sign : (decide (c = '+') || decide (c = '-')) = true
    · simp only [readExponentSign, if_pos sign, List.cons_append, List.nil_append]
    · simpa only [readExponentSign, if_neg sign, List.nil_append] using unsigned

/-- The whole part is found in front of what is no digit. -/
theorem readWhole_found (accepted : readWhole text = .ok (part, rest)) :
    FoundBefore readWhole CodePoint.isDigit part ∧ Halts CodePoint.isDigit rest ∧
      BeginsWithDigit part := by
  cases text with
  | nil => cases accepted
  | cons c text =>
    simp only [readWhole] at accepted
    split at accepted
    · next zero =>
      have digit : c.isDigit = true := by rw [zero]; rfl
      have single : FoundBefore readWhole CodePoint.isDigit [c] := by
        intro other halts
        cases other with
        | nil => simp [readWhole, zero]
        | cons d other => simp [readWhole, zero, halts d rfl]
      split at accepted
      · cases accepted
        exact ⟨single, .nil, ⟨c, _, rfl, digit⟩⟩
      · split at accepted
        · cases accepted
        · next other =>
          cases accepted
          exact ⟨single, .cons (by simpa using other), ⟨c, _, rfl, digit⟩⟩
    · next other =>
      obtain ⟨found, behind⟩ := readDigits_found accepted
      obtain ⟨further, rfl⟩ :=
        exists_cons_of_append (readDigits_append accepted) (readDigits_ne_nil accepted)
      refine ⟨?_, behind⟩
      intro more halts
      exact (if_neg other).trans (found halts)

/-- What looks like a fraction or goes on with one. -/
def goesOnFraction (c : CodePoint) : Bool := c.isDigit || decide (c = '.')

/-- What looks like an exponent or goes on with one. -/
def goesOnExponent (c : CodePoint) : Bool := c.isDigit || (decide (c = 'e') || decide (c = 'E'))

/-- The fraction is found in front of what does not look like one. It is empty or begins with
a point. -/
theorem readFraction_found (accepted : readFraction text = .ok (part, rest))
    (halted : Halts CodePoint.isDigit text) :
    FoundBefore readFraction goesOnFraction part ∧ Halts CodePoint.isDigit rest ∧
      Halts CodePoint.isDigit part := by
  have missing : FoundBefore readFraction goesOnFraction [] := by
    intro other halts
    cases other with
    | nil => rfl
    | cons c other =>
      have refused := halts c rfl
      simp only [goesOnFraction, Bool.or_eq_false_iff, decide_eq_false_iff_not] at refused
      exact if_neg refused.2
  cases text with
  | nil =>
    cases accepted
    exact ⟨missing, .nil, .nil⟩
  | cons c text =>
    simp only [readFraction] at accepted
    split at accepted
    · next point =>
      split at accepted
      · next digits tail read =>
        cases accepted
        obtain ⟨found, behind, -⟩ := readDigits_found read
        refine ⟨?_, behind, .cons (by rw [point]; rfl)⟩
        intro other halts
        have digitless : Halts CodePoint.isDigit other :=
          halts.mono (by simp_all [goesOnFraction])
        rw [List.cons_append, readFraction, if_pos point, found digitless]
      · cases accepted
    · cases accepted
      exact ⟨missing, halted, .nil⟩

/-- The exponent is found in front of what does not look like one. It is empty or begins with
its letter. -/
theorem readExponent_found (accepted : readExponent text = .ok (part, rest))
    (halted : Halts CodePoint.isDigit text) :
    FoundBefore readExponent goesOnExponent part ∧ Halts CodePoint.isDigit rest ∧
      Halts goesOnFraction part := by
  have missing : FoundBefore readExponent goesOnExponent [] := by
    intro other halts
    cases other with
    | nil => rfl
    | cons c other =>
      have refused := halts c rfl
      rw [goesOnExponent, Bool.or_eq_false_iff] at refused
      exact if_neg (by simp [refused.2])
  cases text with
  | nil =>
    cases accepted
    exact ⟨missing, .nil, .nil⟩
  | cons c text =>
    simp only [readExponent] at accepted
    split at accepted
    · next letter =>
      split at accepted
      · next digits tail read =>
        cases accepted
        obtain ⟨found, behind, begins⟩ := readDigits_found read
        have foreign : goesOnFraction c = false := by
          simp only [Bool.or_eq_true, decide_eq_true_eq] at letter
          obtain rfl | rfl := letter <;> rfl
        refine ⟨?_, behind, .cons foreign⟩
        intro other halts
        have digitless : Halts CodePoint.isDigit other :=
          halts.mono (by simp_all [goesOnExponent])
        have signless :
            Halts (fun c => decide (c = '+') || decide (c = '-')) (digits ++ other) :=
          begins.halts (fun d digit => Bool.or_eq_false_iff.mpr (not_sign_of_digit digit)) other
        rw [List.cons_append, List.cons_append, List.append_assoc, readExponent, if_pos letter,
          readExponentSign_found _ signless]
        simp only [found digitless]
        rfl
      · cases accepted
    · cases accepted
      exact ⟨missing, halted, .nil⟩

/-- What must not follow a number, because it looks like more of it. -/
def goesOn (c : CodePoint) : Bool := decide (c = '.') || c.isNameRest

/-- A digit goes on with a number. -/
theorem goesOn_of_digit (c : CodePoint) (digit : c.isDigit = true) : goesOn c = true := by
  simp [goesOn, CodePoint.isNameRest, digit]

/-- What goes on with a fraction goes on with a number. -/
theorem goesOn_of_fraction (c : CodePoint) (passed : goesOnFraction c = true) :
    goesOn c = true := by
  simp only [goesOnFraction, Bool.or_eq_true, decide_eq_true_eq] at passed
  obtain digit | rfl := passed
  · exact goesOn_of_digit c digit
  · rfl

/-- What goes on with an exponent goes on with a number. -/
theorem goesOn_of_exponent (c : CodePoint) (passed : goesOnExponent c = true) :
    goesOn c = true := by
  simp only [goesOnExponent, Bool.or_eq_true, decide_eq_true_eq] at passed
  obtain digit | rfl | rfl := passed
  · exact goesOn_of_digit c digit
  · rfl
  · rfl

/-- A number has ended if neither a point nor a letter follows, and no digit either. -/
theorem checkEnd_iff (halted : Halts CodePoint.isDigit text) :
    checkEnd text = .ok () ↔ Halts goesOn text := by
  cases text with
  | nil => exact ⟨fun _ => .nil, fun _ => rfl⟩
  | cons c text =>
    have digit := halted c rfl
    simp only [checkEnd]
    split
    · next passed =>
      constructor
      · intro failed
        cases failed
      · intro halts
        have refused := halts c rfl
        simp_all [goesOn, CodePoint.isNameRest]
    · next refused =>
      refine ⟨fun _ => .cons ?_, fun _ => rfl⟩
      simp_all [goesOn, CodePoint.isNameRest]

end Number

/-! ## Lexemes -/

/-- How the value of a token goes with its spelling. A string is decoded, and what it stands
for is left open here. -/
def TokenKind.Spells (kind : TokenKind) (value raw : Text) : Prop :=
  match kind with
  | .comment => raw = CodePoint.ofChar '#' :: value
  | .string | .blockString => True
  | _ => value = raw

namespace Lexeme

/-- A lexeme with another text behind it. -/
def followedBy (lexeme : Lexeme) (text : Text) : Lexeme := { lexeme with rest := text }

/-- A number is found in front of what does not look like more of it. -/
theorem number_found {text : Text} {lexeme : Lexeme} (accepted : number text = .ok lexeme) :
    Halts Number.goesOn lexeme.rest ∧
      ∀ {other}, Halts Number.goesOn other →
        number (lexeme.raw ++ other) = .ok (lexeme.followedBy other) := by
  simp only [number] at accepted
  split at accepted
  · cases accepted
  · next whole afterWhole readWhole =>
    obtain ⟨foundWhole, halted, begins⟩ := Number.readWhole_found readWhole
    split at accepted
    · cases accepted
    · next fraction afterFraction readFraction =>
      obtain ⟨foundFraction, halted, fractionHalts⟩ :=
        Number.readFraction_found readFraction halted
      split at accepted
      · cases accepted
      · next exponent rest readExponent =>
        obtain ⟨foundExponent, halted, exponentHalts⟩ :=
          Number.readExponent_found readExponent halted
        split at accepted
        · cases accepted
        · next ended =>
          cases accepted
          refine ⟨(Number.checkEnd_iff halted).mp ended, ?_⟩
          intro other halts
          have digitless := halts.mono Number.goesOn_of_digit
          have afterExponent := foundExponent (halts.mono Number.goesOn_of_exponent)
          have afterFraction :=
            foundFraction (exponentHalts.append (halts.mono Number.goesOn_of_fraction))
          have afterWhole := foundWhole (fractionHalts.append
            ((exponentHalts.mono (by simp_all [Number.goesOnFraction])).append digitless))
          have signless : Halts (fun c => decide (c = '-'))
              (whole ++ (fraction ++ (exponent ++ other))) :=
            begins.halts (fun d digit => (Number.not_sign_of_digit digit).2) _
          have afterSign := Number.readSign_found text signless
          simp only [List.append_assoc]
          unfold number
          simp only [afterSign, afterWhole, afterFraction, afterExponent,
            (Number.checkEnd_iff digitless).mpr halts]
          rfl

/-- The forms of a lexeme that begins with a code point, one for each reader. -/
inductive Spelled (c : CodePoint) (rest : Text) : Lexeme → Prop where
  | comment (sign : c = '#') : Spelled c rest (comment c rest)
  | block {body tail : Text} {items : List BlockItem} (quoted : c = .quote)
      (opened : Text.after? rest [.quote, .quote] = some body)
      (closed : BlockItem.readAll body = some (items, tail)) :
      Spelled c rest
        ⟨.blockString, BlockString.value (items.flatMap BlockItem.value),
          tripleQuote ++ (items.flatMap BlockItem.spelling ++ tripleQuote), tail⟩
  | string {tail : Text} {items : List StringItem} (quoted : c = .quote)
      (single : Text.after? rest [.quote, .quote] = none)
      (closed : StringItem.readAll rest = .ok (items, tail)) :
      Spelled c rest
        ⟨.string, items.map StringItem.value,
          .quote :: (items.flatMap StringItem.spelling ++ [.quote]), tail⟩
  | number {lexeme : Lexeme} (begins : (decide (c = '-') || c.isDigit) = true)
      (found : number (c :: rest) = .ok lexeme) : Spelled c rest lexeme
  | name (begins : c.isNameStart = true) : Spelled c rest (name (c :: rest))
  | spread {tail : Text} (point : c = '.') (further : Text.after? rest ".." = some tail) :
      Spelled c rest ⟨.spread, "...", "...", tail⟩
  | punctuator {kind : TokenKind} (mark : TokenKind.ofPunctuator? c = some kind) :
      Spelled c rest ⟨kind, [c], [c], rest⟩

/-- A name begins neither as a number nor as a comment nor with a quote. -/
theorem not_digit_of_nameStart {c : CodePoint} (begins : c.isNameStart = true) :
    c ≠ '#' ∧ c ≠ .quote ∧ ¬ (decide (c = '-') || c.isDigit) = true := by
  refine ⟨by rintro rfl; exact absurd begins (by decide),
    by rintro rfl; exact absurd begins (by decide), ?_⟩
  intro number
  rw [Bool.or_eq_true, decide_eq_true_eq] at number
  obtain rfl | digit := number
  · exact absurd begins (by decide)
  · simp only [CodePoint.isNameStart, CodePoint.isUpper, CodePoint.isLower, CodePoint.isDigit,
      CodePoint.between, Bool.or_eq_true, Bool.and_eq_true, decide_eq_true_eq] at begins digit
    obtain (upper | lower) | rfl := begins
    · simp at upper digit; omega
    · simp at lower digit; omega
    · exact absurd digit (by decide)

/-- The punctuators by the numbers of their code points. -/
def punctuators : List (Nat × TokenKind) :=
  [(0x21, .bang), (0x24, .dollar), (0x26, .amp), (0x28, .leftParen), (0x29, .rightParen),
    (0x3A, .colon), (0x3D, .equals), (0x40, .at), (0x5B, .leftBracket), (0x5D, .rightBracket),
    (0x7B, .leftBrace), (0x7C, .pipe), (0x7D, .rightBrace)]

/-- A choice gives what a passed condition selects or else what is left. -/
theorem passed_or_left {α : Type} {condition : Prop} [Decidable condition] {value selected : α}
    {others : Option α} (chosen : (if condition then some selected else others) = some value) :
    (condition ∧ selected = value) ∨ others = some value := by
  split at chosen
  · next passed => exact .inl ⟨passed, Option.some.inj chosen⟩
  · exact .inr chosen

/-- A punctuator is one of the table. -/
theorem punctuator_mem {c : CodePoint} {kind : TokenKind}
    (mark : TokenKind.ofPunctuator? c = some kind) : (c.val, kind) ∈ punctuators := by
  unfold TokenKind.ofPunctuator? at mark
  repeat
    obtain ⟨same, rfl⟩ | mark := passed_or_left mark
    · rw [same]
      decide
  cases mark

/-- A punctuator begins no other lexeme. -/
theorem other_of_punctuator {c : CodePoint} {kind : TokenKind}
    (mark : TokenKind.ofPunctuator? c = some kind) :
    c ≠ '#' ∧ c ≠ .quote ∧ ¬ (decide (c = '-') || c.isDigit) = true ∧ ¬ c.isNameStart = true ∧
      c ≠ '.' := by
  have others : ∀ entry ∈ punctuators, CodePoint.ofNat entry.1 ≠ '#' ∧
      CodePoint.ofNat entry.1 ≠ .quote ∧
      ¬ (decide (CodePoint.ofNat entry.1 = '-') || (CodePoint.ofNat entry.1).isDigit) = true ∧
      ¬ (CodePoint.ofNat entry.1).isNameStart = true ∧ CodePoint.ofNat entry.1 ≠ '.' := by decide
  have same : CodePoint.ofNat c.val = c := dif_pos c.valid
  exact same ▸ others _ (punctuator_mem mark)

/-- A lexeme is read exactly if it has one of the forms. -/
theorem read_iff {c : CodePoint} {rest : Text} {lexeme : Lexeme} :
    read c rest = .ok lexeme ↔ Spelled c rest lexeme := by
  constructor
  · intro accepted
    unfold read at accepted
    split at accepted
    · next sign =>
      cases accepted
      exact .comment sign
    split at accepted
    · next quoted =>
      split at accepted
      · next body opened =>
        simp only [Lexeme.block] at accepted
        split at accepted
        · next closed =>
          cases accepted
          exact .block quoted opened closed
        · cases accepted
      · next single =>
        simp only [Lexeme.string] at accepted
        split at accepted
        · next closed =>
          cases accepted
          exact .string quoted single closed
        · cases accepted
    split at accepted
    · next begins => exact .number begins accepted
    split at accepted
    · next begins =>
      cases accepted
      exact .name begins
    split at accepted
    · next point =>
      split at accepted
      · next further =>
        cases accepted
        exact .spread point further
      · cases accepted
    split at accepted
    · next mark =>
      cases accepted
      exact .punctuator mark
    · cases accepted
  · intro spelled
    unfold read
    cases spelled with
    | comment sign => exact if_pos sign
    | block quoted opened closed =>
      subst quoted
      rw [if_neg (by decide), if_pos rfl, opened]
      simp only [Lexeme.block, closed]
    | string quoted single closed =>
      subst quoted
      rw [if_neg (by decide), if_pos rfl, single]
      simp only [Lexeme.string, closed]
    | number begins found =>
      have noComment : c ≠ '#' := by rintro rfl; exact absurd begins (by decide)
      have noQuote : c ≠ .quote := by rintro rfl; exact absurd begins (by decide)
      rw [if_neg noComment, if_neg noQuote, if_pos begins, found]
    | name begins =>
      obtain ⟨noComment, noQuote, noNumber⟩ := not_digit_of_nameStart begins
      rw [if_neg noComment, if_neg noQuote, if_neg noNumber, if_pos begins]
    | spread point further =>
      subst point
      rw [if_neg (by decide), if_neg (by decide), if_neg (by decide), if_neg (by decide),
        if_pos rfl, further]
    | punctuator mark =>
      obtain ⟨noComment, noQuote, noNumber, noName, noPoint⟩ := other_of_punctuator mark
      rw [if_neg noComment, if_neg noQuote, if_neg noNumber, if_neg noName, if_neg noPoint, mark]

/-- A number is whole or not, and its value is its spelling. -/
theorem number_kind {text : Text} {lexeme : Lexeme} (accepted : number text = .ok lexeme) :
    (lexeme.kind = .int ∨ lexeme.kind = .float) ∧ lexeme.value = lexeme.raw := by
  simp only [number] at accepted
  repeat
    split at accepted
    · cases accepted
  cases accepted
  refine ⟨?_, rfl⟩
  dsimp only
  split
  · exact .inl rfl
  · exact .inr rfl

/-- The kind, the value and the spelling of a lexeme go together: it is not the end of input,
a comment is spelled with a number sign, a string is decoded, and every other value is spelled
as it is. -/
theorem read_spells {c : CodePoint} {rest : Text} {lexeme : Lexeme}
    (accepted : read c rest = .ok lexeme) :
    lexeme.kind ≠ .endOfInput ∧ lexeme.kind.Spells lexeme.value lexeme.raw := by
  cases read_iff.mp accepted with
  | comment sign => exact ⟨nofun, congrArg (· :: _) sign⟩
  | block quoted opened closed => exact ⟨nofun, trivial⟩
  | string quoted single closed => exact ⟨nofun, trivial⟩
  | number begins found =>
    obtain ⟨kind | kind, same⟩ := number_kind found <;> (rw [kind]; exact ⟨nofun, same⟩)
  | name begins => exact ⟨nofun, rfl⟩
  | spread point further => exact ⟨nofun, rfl⟩
  | punctuator mark =>
    have marks : ∀ entry ∈ punctuators, entry.2 ≠ .endOfInput ∧ entry.2.Spells [c] [c] := by
      simp [punctuators, TokenKind.Spells]
    exact marks _ (punctuator_mem mark)

/-- The code points that would be taken for more of a lexeme. Two quotes in front of a third
one open a block string, so they are no string by themselves. -/
def goesOn (lexeme : Lexeme) (c : CodePoint) : Bool :=
  match lexeme.kind with
  | .comment => !c.endsComment
  | .name => c.isNameRest
  | .int | .float => Number.goesOn c
  | .string => decide (lexeme.raw = [.quote, .quote]) && decide (c = .quote)
  | _ => false

/-- The code points that go on with a number. -/
theorem goesOn_number {text : Text} {lexeme : Lexeme} (accepted : number text = .ok lexeme) :
    lexeme.goesOn = Number.goesOn := by
  funext c
  obtain ⟨kind | kind, -⟩ := number_kind accepted <;> simp only [goesOn, kind]

/-- Nothing goes on with a punctuator. -/
theorem goesOn_punctuator {c : CodePoint} {kind : TokenKind} (value raw rest : Text)
    (mark : TokenKind.ofPunctuator? c = some kind) (d : CodePoint) :
    goesOn ⟨kind, value, raw, rest⟩ d = false := by
  have marks : ∀ entry ∈ punctuators, ∀ lexeme : Lexeme, lexeme.kind = entry.2 →
      lexeme.goesOn d = false := by
    simp +contextual [punctuators, goesOn]
  exact marks _ (punctuator_mem mark) _ rfl

/-- A quote makes up two with what follows unless that is no quote. -/
theorem after?_quotes {text : Text} :
    Text.after? (.quote :: text) [.quote, .quote] = none ↔
      Halts (fun c => decide (c = .quote)) text := by
  cases text with
  | nil => exact ⟨fun _ => .nil, fun _ => rfl⟩
  | cons c text =>
    have decided : Text.after? (.quote :: c :: text) [.quote, .quote] =
        if c = .quote then some text else none := by
      cases text <;> simp [Text.after?]
    rw [decided]
    constructor
    · intro absent
      refine .cons (decide_eq_false ?_)
      rintro rfl
      cases absent
    · intro halts
      exact if_neg (of_decide_eq_false (halts c rfl))

/-- What follows a lexeme that was read is no more of it. -/
theorem read_halts {c : CodePoint} {rest : Text} {lexeme : Lexeme}
    (accepted : read c rest = .ok lexeme) : Halts lexeme.goesOn lexeme.rest := by
  cases read_iff.mp accepted with
  | comment sign => exact .dropWhile _ _
  | block quoted opened closed => exact fun _ _ => rfl
  | @string tail items quoted single closed =>
    by_cases empty : items.flatMap StringItem.spelling = []
    · have split := StringItem.spelling_readAll closed
      rw [empty, List.nil_append] at split
      rw [split] at single
      refine (after?_quotes.mp single).mono ?_
      intro d more
      exact (Bool.and_eq_true_iff.mp more).2
    · intro d first
      simp [goesOn, empty]
  | number begins found =>
    rw [goesOn_number found]
    exact (number_found found).1
  | name begins => exact .dropWhile _ _
  | spread point further => exact fun _ _ => rfl
  | punctuator mark => exact fun d _ => goesOn_punctuator _ _ _ mark d

/-- The spelling of a lexeme begins with the code point it is read from. -/
theorem cons_raw_tail {c : CodePoint} {rest : Text} {lexeme : Lexeme}
    (accepted : read c rest = .ok lexeme) : c :: lexeme.raw.tail = lexeme.raw := by
  obtain ⟨further, spelled⟩ :=
    Number.exists_cons_of_append (raw_append_rest accepted) (raw_ne_nil accepted)
  rw [spelled, List.tail_cons]

/-- The text behind the first code point of a lexeme is the rest of its spelling and what
follows. -/
theorem raw_tail_append_rest {c : CodePoint} {rest : Text} {lexeme : Lexeme}
    (accepted : read c rest = .ok lexeme) : lexeme.raw.tail ++ lexeme.rest = rest := by
  have splits := raw_append_rest accepted
  rw [← cons_raw_tail accepted] at splits
  exact (List.cons.inj splits).2

/-- A lexeme that was read is read in front of every other text that is no more of it. -/
theorem read_followedBy {c : CodePoint} {rest other : Text} {lexeme : Lexeme}
    (accepted : read c rest = .ok lexeme) (halts : Halts lexeme.goesOn other) :
    read c (lexeme.raw.tail ++ other) = .ok (lexeme.followedBy other) := by
  rw [read_iff]
  cases read_iff.mp accepted with
  | comment sign =>
    replace halts : Halts (fun c => !c.endsComment) other := halts
    have same : comment c ((comment c rest).raw.tail ++ other) =
        (comment c rest).followedBy other := by
      simp only [comment, followedBy, List.tail_cons, halts.takeWhile_append,
        halts.dropWhile_append]
    exact same ▸ .comment sign
  | block quoted opened closed =>
    have still := BlockItem.readAll_local closed other
    rw [← List.append_assoc] at still
    exact .block quoted (Text.after?_lead [.quote, .quote] _) still
  | @string tail items quoted single closed =>
    have still := StringItem.readAll_local closed other
    rw [List.append_cons] at still
    refine .string quoted ?_ still
    by_cases empty : items.flatMap StringItem.spelling = []
    · rw [empty]
      refine after?_quotes.mpr (halts.mono ?_)
      intro d more
      simpa [goesOn, empty] using more
    · have long : [CodePoint.quote, .quote].length ≤
          (items.flatMap StringItem.spelling ++ [CodePoint.quote]).length := by
        have := List.length_pos_iff.mpr empty
        simp only [List.length_append, List.length_cons, List.length_nil]
        omega
      rw [StringItem.spelling_readAll closed, List.append_cons, Text.after?_local long,
        Option.map_eq_none_iff] at single
      rw [List.tail_cons, Text.after?_local long, single]
      rfl
  | number begins found =>
    rw [goesOn_number found] at halts
    have still := (number_found found).2 halts
    rw [← cons_raw_tail accepted] at still
    exact .number begins still
  | name begins =>
    replace halts : Halts CodePoint.isNameRest other := halts
    have goesOn : c.isNameRest = true := by simp [CodePoint.isNameRest, begins]
    have spelled : c :: (name (c :: rest)).raw.tail = (c :: rest).takeWhile CodePoint.isNameRest :=
      by simp [name, goesOn]
    have same : name (c :: ((name (c :: rest)).raw.tail ++ other)) =
        (name (c :: rest)).followedBy other := by
      rw [← List.cons_append, spelled]
      simp only [name, followedBy, halts.takeWhile_append, halts.dropWhile_append]
    exact same ▸ .name begins
  | spread point further => exact .spread point (Text.after?_lead ".." other)
  | punctuator mark => exact .punctuator mark

end Lexeme

end SchemaForge

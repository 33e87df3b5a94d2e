import Mathlib.Computability.RegularExpressions
import SchemaForge.Proofs.QuotedStrings

/-!
# Numbers as a regular expression

The numbers of the schema language as a regular expression: `-?(0|[1-9][0-9]*)`, then
`(\.[0-9]+)?` and `([eE][+-]?[0-9]+)?`. The expression says which texts are numbers and nothing
about how one is found in front of other text.

The reader goes from part to part and stops at the first fault. `Lexeme.number_iff` says what
comes of it: a number is read exactly if the longest numeral at the start of the text has
nothing behind it that looks like more of a number. The reader never searches for the longest
numeral, because a numeral in front of what does not go on with one is the longest already.
-/

namespace SchemaForge

/-- A code point is the one of its number. -/
theorem CodePoint.ofChar_ofNat {number : Nat} (small : number < 0xD800) :
    CodePoint.ofChar (Char.ofNat number) = CodePoint.ofNat number := by
  have valid : number.isValidChar := .inl small
  have bound : number < 0x110000 := by omega
  rw [Char.ofNat, dif_pos valid, CodePoint.ofNat, dif_pos bound]
  rfl

namespace NumberExpression

/-! ## Expressions -/

/-- Any one of some characters. -/
def oneOf (characters : List Char) : RegularExpression CodePoint :=
  (characters.map (fun c => .char c)).sum

/-- Any one of the characters from the first to the last. -/
def range (first last : Char) : RegularExpression CodePoint :=
  oneOf ((List.range' first.toNat (last.toNat + 1 - first.toNat)).map Char.ofNat)

/-- What may be missing. -/
def optional (expression : RegularExpression CodePoint) : RegularExpression CodePoint :=
  1 + expression

/-- `[0-9]` -/
def digit : RegularExpression CodePoint := range '0' '9'

/-- `[0-9]+` -/
def digits : RegularExpression CodePoint := digit * digit.star

/-- `0|[1-9][0-9]*` -/
def whole : RegularExpression CodePoint := oneOf ['0'] + range '1' '9' * digit.star

/-- `\.[0-9]+` -/
def fraction : RegularExpression CodePoint := oneOf ['.'] * digits

/-- `[eE][+-]?[0-9]+` -/
def exponent : RegularExpression CodePoint :=
  oneOf ['e', 'E'] * (optional (oneOf ['+', '-']) * digits)

/-- `-?(0|[1-9][0-9]*)` -/
def int : RegularExpression CodePoint := optional (oneOf ['-']) * whole

/-- An integer, then a fraction and an exponent, each of which may be missing. -/
def number : RegularExpression CodePoint := int * (optional fraction * optional exponent)

section Texts

variable {text : Text} {expression other : RegularExpression CodePoint}

/-- One of two expressions. -/
theorem mem_add : text ∈ (expression + other).matches' ↔
    text ∈ expression.matches' ∨ text ∈ other.matches' := by
  rw [RegularExpression.matches'_add, Language.mem_add]

/-- One expression behind another. -/
theorem mem_mul : text ∈ (expression * other).matches' ↔
    ∃ front ∈ expression.matches', ∃ back ∈ other.matches', front ++ back = text := by
  rw [RegularExpression.matches'_mul, Language.mem_mul]

/-- What may be missing is empty or there. -/
theorem mem_optional :
    text ∈ (optional expression).matches' ↔ text = [] ∨ text ∈ expression.matches' := by
  rw [optional, mem_add, RegularExpression.matches'_epsilon, Language.mem_one]

/-- One of some characters is spelled by one code point. -/
theorem mem_oneOf {characters : List Char} :
    text ∈ (oneOf characters).matches' ↔ ∃ c ∈ characters, text = [CodePoint.ofChar c] := by
  unfold oneOf
  induction characters with
  | nil => simp
  | cons first characters inductionHypothesis =>
    have single : text ∈ (RegularExpression.char (CodePoint.ofChar first)).matches' ↔
        text = [CodePoint.ofChar first] := Iff.rfl
    rw [List.map_cons, List.sum_cons, mem_add, inductionHypothesis, List.exists_mem_cons_iff,
      single]

/-- One of a range is a code point between its ends. -/
theorem mem_range {first last : Char} (low : last.toNat < 0xD800) :
    text ∈ (range first last).matches' ↔ ∃ c, c.between first last = true ∧ text = [c] := by
  simp only [range, mem_oneOf, List.mem_map, List.mem_range'_1, CodePoint.between,
    Bool.and_eq_true, decide_eq_true_eq]
  constructor
  · rintro ⟨_, ⟨number, bounds, rfl⟩, rfl⟩
    have valid : number < 0x110000 := by omega
    rw [CodePoint.ofChar_ofNat (by omega), CodePoint.ofNat, dif_pos valid]
    exact ⟨_, by dsimp only; omega, rfl⟩
  · rintro ⟨c, bounds, rfl⟩
    refine ⟨_, ⟨c.val, by omega, rfl⟩, ?_⟩
    rw [CodePoint.ofChar_ofNat (by omega), CodePoint.ofNat_val]

/-- A digit of the expression is one of the reader. -/
theorem mem_digit : text ∈ digit.matches' ↔ ∃ c, c.isDigit = true ∧ text = [c] :=
  mem_range (by decide)

/-- A row of digits, which may be empty. -/
theorem mem_digit_star : text ∈ digit.star.matches' ↔ ∀ c ∈ text, c.isDigit = true := by
  rw [RegularExpression.matches'_star, Language.mem_kstar]
  constructor
  · rintro ⟨pieces, rfl, each⟩ c member
    obtain ⟨piece, listed, inside⟩ := List.mem_flatten.mp member
    obtain ⟨d, decimal, rfl⟩ := mem_digit.mp (each piece listed)
    rwa [List.mem_singleton.mp inside]
  · intro decimal
    refine ⟨text.map (fun c => [c]), ?_, ?_⟩
    · rw [← List.flatMap_def, List.flatMap_singleton']
    · intro piece listed
      obtain ⟨c, member, rfl⟩ := List.mem_map.mp listed
      exact mem_digit.mpr ⟨c, decimal c member, rfl⟩

/-- A row of digits behind a first one of a range. -/
theorem mem_range_star {first last : Char} (low : last.toNat < 0xD800) :
    text ∈ (range first last * digit.star).matches' ↔
      ∃ c others, c.between first last = true ∧ (∀ d ∈ others, d.isDigit = true) ∧
        text = c :: others := by
  rw [mem_mul]
  constructor
  · rintro ⟨front, begins, others, further, rfl⟩
    obtain ⟨c, between, rfl⟩ := (mem_range low).mp begins
    exact ⟨c, others, between, mem_digit_star.mp further, rfl⟩
  · rintro ⟨c, others, between, further, rfl⟩
    exact ⟨[c], (mem_range low).mpr ⟨c, between, rfl⟩, others, mem_digit_star.mpr further, rfl⟩

/-- A run of digits. -/
theorem mem_digits : text ∈ digits.matches' ↔
    ∃ c others, c.isDigit = true ∧ (∀ d ∈ others, d.isDigit = true) ∧ text = c :: others :=
  mem_range_star (by decide)

/-- A whole part is a zero or a run of digits that does not begin with one. -/
theorem mem_whole : text ∈ whole.matches' ↔ text = [CodePoint.ofChar '0'] ∨
    ∃ c others, c.between '1' '9' = true ∧ (∀ d ∈ others, d.isDigit = true) ∧
      text = c :: others := by
  rw [whole, mem_add, mem_oneOf, mem_range_star (by decide)]
  simp

/-- A fraction is a point and a run of digits. -/
theorem mem_fraction : text ∈ fraction.matches' ↔
    ∃ run ∈ digits.matches', text = CodePoint.ofChar '.' :: run := by
  rw [fraction, mem_mul]
  simp [mem_oneOf, eq_comm]

/-- An exponent is a letter, a sign or none, and a run of digits. -/
theorem mem_exponent : text ∈ exponent.matches' ↔
    ∃ letter ∈ ['e', 'E'], ∃ sign ∈ (optional (oneOf ['+', '-'])).matches',
      ∃ run ∈ digits.matches', text = CodePoint.ofChar letter :: (sign ++ run) := by
  rw [exponent, mem_mul]
  constructor
  · rintro ⟨_, begins, _, further, rfl⟩
    obtain ⟨letter, listed, rfl⟩ := mem_oneOf.mp begins
    obtain ⟨sign, signed, run, decimal, rfl⟩ := mem_mul.mp further
    exact ⟨letter, listed, sign, signed, run, decimal, rfl⟩
  · rintro ⟨letter, listed, sign, signed, run, decimal, rfl⟩
    exact ⟨_, mem_oneOf.mpr ⟨letter, listed, rfl⟩, _, mem_mul.mpr ⟨sign, signed, run, decimal, rfl⟩,
      rfl⟩

/-- An integer is a sign or none and a whole part. -/
theorem mem_int : text ∈ int.matches' ↔
    ∃ sign ∈ (optional (oneOf ['-'])).matches', ∃ unsigned ∈ whole.matches',
      sign ++ unsigned = text := mem_mul

/-- A number is an integer, a fraction and an exponent. -/
theorem mem_number : text ∈ number.matches' ↔
    ∃ front ∈ int.matches', ∃ part ∈ (optional fraction).matches',
      ∃ power ∈ (optional exponent).matches', front ++ (part ++ power) = text := by
  rw [number, mem_mul]
  constructor
  · rintro ⟨front, whole, _, further, rfl⟩
    obtain ⟨part, pointed, power, scaled, rfl⟩ := mem_mul.mp further
    exact ⟨front, whole, part, pointed, power, scaled, rfl⟩
  · rintro ⟨front, whole, part, pointed, power, scaled, rfl⟩
    exact ⟨front, whole, _, mem_mul.mpr ⟨part, pointed, power, scaled, rfl⟩, rfl⟩

end Texts

end NumberExpression

/-! ## Parts and their readers -/

namespace Number

open NumberExpression

variable {text part rest : Text}

/-- A reader of a part takes nothing but texts of an expression, and each of them whole if
nothing is behind it. -/
structure Follows (reader : Text → Except LexicalFault (Text × Text))
    (expression : RegularExpression CodePoint) : Prop where
  /-- What is taken is a text of the expression. -/
  sound : ∀ {text part rest}, reader text = .ok (part, rest) → part ∈ expression.matches'
  /-- A text of the expression is taken. -/
  complete : ∀ {part}, part ∈ expression.matches' → reader part = .ok (part, [])

/-- A row of digits is a run by itself. -/
theorem readDigits_row {c : CodePoint} {others : Text} (begins : c.isDigit = true)
    (further : ∀ d ∈ others, d.isDigit = true) :
    readDigits (c :: others) = .ok (c :: others, []) := by
  have all : ∀ d ∈ c :: others, d.isDigit = true := List.forall_mem_cons.mpr ⟨begins, further⟩
  have taken : ((c :: others) ++ []).takeWhile CodePoint.isDigit = _ :=
    List.takeWhile_append_of_pos all
  have dropped : ((c :: others) ++ []).dropWhile CodePoint.isDigit = _ :=
    List.dropWhile_append_of_pos all
  rw [List.append_nil] at taken dropped
  rw [readDigits, if_pos begins, taken, dropped]
  simp

/-- Runs of digits. -/
theorem readDigits_follows : Follows readDigits digits where
  sound := by
    intro text part rest accepted
    cases text with
    | nil => cases accepted
    | cons c text =>
      simp only [readDigits] at accepted
      split at accepted
      · next begins =>
        cases accepted
        rw [List.takeWhile_cons_of_pos begins]
        exact mem_digits.mpr
          ⟨c, _, begins, List.all_eq_true.mp List.all_takeWhile, rfl⟩
      · cases accepted
  complete := by
    intro part spelled
    obtain ⟨c, others, begins, further, rfl⟩ := mem_digits.mp spelled
    exact readDigits_row begins further

/-- A digit other than zero. -/
theorem between_of_nonzero {c : CodePoint} (decimal : c.isDigit = true)
    (other : c ≠ CodePoint.ofChar '0') : c.between '1' '9' = true := by
  have number : c.val ≠ 0x30 := by
    intro same
    apply other
    rw [← c.ofNat_val, same]
    rfl
  simp only [CodePoint.isDigit, CodePoint.between, Bool.and_eq_true, decide_eq_true_eq,
    show '0'.toNat = 0x30 from rfl, show '1'.toNat = 0x31 from rfl,
    show '9'.toNat = 0x39 from rfl] at decimal ⊢
  omega

/-- A digit that is not zero is a digit. -/
theorem isDigit_of_between {c : CodePoint} (between : c.between '1' '9' = true) :
    c.isDigit = true ∧ c ≠ CodePoint.ofChar '0' := by
  constructor
  · simp only [CodePoint.isDigit, CodePoint.between, Bool.and_eq_true, decide_eq_true_eq,
      show '0'.toNat = 0x30 from rfl, show '1'.toNat = 0x31 from rfl] at between ⊢
    omega
  · rintro rfl
    exact absurd between (by decide)

/-- Whole parts. -/
theorem readWhole_follows : Follows readWhole whole where
  sound := by
    intro text part rest accepted
    cases text with
    | nil => cases accepted
    | cons c text =>
      simp only [readWhole] at accepted
      split at accepted
      · next zero =>
        subst zero
        split at accepted
        · cases accepted
          exact mem_whole.mpr (.inl rfl)
        · split at accepted
          · cases accepted
          · cases accepted
            exact mem_whole.mpr (.inl rfl)
      · next other =>
        obtain ⟨d, others, decimal, further, rfl⟩ :=
          mem_digits.mp (readDigits_follows.sound accepted)
        obtain ⟨rfl, -⟩ := List.cons.inj (readDigits_append accepted)
        exact mem_whole.mpr (.inr ⟨d, others, between_of_nonzero decimal other, further, rfl⟩)
  complete := by
    intro part spelled
    obtain rfl | ⟨c, others, between, further, rfl⟩ := mem_whole.mp spelled
    · rfl
    · obtain ⟨decimal, other⟩ := isDigit_of_between between
      refine (if_neg other).trans ?_
      exact readDigits_row decimal further

/-- Fractions, which may be missing. -/
theorem readFraction_follows : Follows readFraction (optional fraction) where
  sound := by
    intro text part rest accepted
    rw [mem_optional]
    cases text with
    | nil =>
      cases accepted
      exact .inl rfl
    | cons c text =>
      simp only [readFraction] at accepted
      split at accepted
      · next point =>
        subst point
        split at accepted
        · next digits tail read =>
          cases accepted
          exact .inr (mem_fraction.mpr ⟨digits, readDigits_follows.sound read, rfl⟩)
        · cases accepted
      · cases accepted
        exact .inl rfl
  complete := by
    intro part spelled
    obtain rfl | given := mem_optional.mp spelled
    · rfl
    · obtain ⟨run, decimal, rfl⟩ := mem_fraction.mp given
      simp [readFraction, readDigits_follows.complete decimal]

/-- The sign of an exponent is one of the two or none. -/
theorem readExponentSign_mem (text : Text) :
    (readExponentSign text).1 ∈ (optional (oneOf ['+', '-'])).matches' := by
  rw [mem_optional, mem_oneOf]
  cases text with
  | nil => exact .inl rfl
  | cons c text =>
    simp only [readExponentSign]
    split
    · next signed =>
      simp only [Bool.or_eq_true, decide_eq_true_eq] at signed
      obtain rfl | rfl := signed
      · exact .inr ⟨'+', by simp, rfl⟩
      · exact .inr ⟨'-', by simp, rfl⟩
    · exact .inl rfl

/-- Exponents, which may be missing. -/
theorem readExponent_follows : Follows readExponent (optional exponent) where
  sound := by
    intro text part rest accepted
    rw [mem_optional]
    cases text with
    | nil =>
      cases accepted
      exact .inl rfl
    | cons c text =>
      simp only [readExponent] at accepted
      split at accepted
      · next marked =>
        have letters : ∃ letter ∈ ['e', 'E'], c = CodePoint.ofChar letter := by simpa using marked
        obtain ⟨letter, listed, rfl⟩ := letters
        split at accepted
        · next digits tail read =>
          cases accepted
          exact .inr (mem_exponent.mpr ⟨letter, listed, _, readExponentSign_mem text, digits,
            readDigits_follows.sound read, rfl⟩)
        · cases accepted
      · cases accepted
        exact .inl rfl
  complete := by
    intro part spelled
    obtain rfl | given := mem_optional.mp spelled
    · rfl
    · obtain ⟨letter, listed, sign, signed, run, decimal, rfl⟩ := mem_exponent.mp given
      have marked : (decide (CodePoint.ofChar letter = 'e') ||
          decide (CodePoint.ofChar letter = 'E')) = true := by
        simp only [List.mem_cons, List.not_mem_nil, or_false] at listed
        obtain rfl | rfl := listed <;> rfl
      have begins : BeginsWithDigit run :=
        (readDigits_found (readDigits_follows.complete decimal)).2.2
      have split : readExponentSign (sign ++ run) = (sign, run) := by
        have signless : Halts (fun c => decide (c = '+') || decide (c = '-')) run := by
          have halts := begins.halts
            (fun d digit => Bool.or_eq_false_iff.mpr (not_sign_of_digit digit)) []
          rwa [List.append_nil] at halts
        have whole : (readExponentSign sign).1 = sign := by
          obtain rfl | given := mem_optional.mp signed
          · rfl
          · obtain ⟨mark, member, rfl⟩ := mem_oneOf.mp given
            simp only [List.mem_cons, List.not_mem_nil, or_false] at member
            obtain rfl | rfl := member <;> rfl
        have found := readExponentSign_found sign signless
        rwa [whole] at found
      rw [readExponent, if_pos marked, split]
      simp only [readDigits_follows.complete decimal, List.cons_append]

end Number

/-! ## Numbers -/

/-- A numeral is an integer or has a fraction or an exponent. -/
def NumberExpression.kind (numeral : Text) : TokenKind :=
  if numeral ∈ NumberExpression.int.matches' then .int else .float

/-- A text of an expression at the start of another text, such that none is longer. -/
structure LongestMatch (expression : RegularExpression CodePoint) (text part : Text) : Prop where
  /-- The text begins with it. -/
  begins : part <+: text
  /-- It is a text of the expression. -/
  matched : part ∈ expression.matches'
  /-- No other one is longer. -/
  longest : ∀ other, other <+: text → other ∈ expression.matches' → other.length ≤ part.length

namespace Lexeme

open Number

/-- A numeral by itself is read part by part. -/
theorem number_parts {sign unsigned part power : Text}
    (signed : sign ∈ (NumberExpression.optional (NumberExpression.oneOf ['-'])).matches')
    (spelled : unsigned ∈ NumberExpression.whole.matches')
    (pointed : part ∈ (NumberExpression.optional NumberExpression.fraction).matches')
    (scaled : power ∈ (NumberExpression.optional NumberExpression.exponent).matches') :
    let raw := sign ++ (unsigned ++ (part ++ power))
    number raw = .ok ⟨if part.isEmpty && power.isEmpty then .int else .float, raw, raw, []⟩ := by
  have partHalts : Halts CodePoint.isDigit part := by
    obtain rfl | given := NumberExpression.mem_optional.mp pointed
    · exact .nil
    · obtain ⟨run, -, rfl⟩ := NumberExpression.mem_fraction.mp given
      exact .cons rfl
  have powerHalts : Halts CodePoint.isDigit power := by
    obtain rfl | given := NumberExpression.mem_optional.mp scaled
    · exact .nil
    · obtain ⟨letter, listed, sign, -, run, -, rfl⟩ := NumberExpression.mem_exponent.mp given
      simp only [List.mem_cons, List.not_mem_nil, or_false] at listed
      obtain rfl | rfl := listed <;> exact .cons rfl
  have readWhole := readWhole_follows.complete spelled
  have readFraction := readFraction_follows.complete pointed
  have readExponent := readExponent_follows.complete scaled
  obtain ⟨foundWhole, -, begins⟩ := readWhole_found readWhole
  obtain ⟨foundFraction, -, -⟩ := readFraction_found readFraction partHalts
  obtain ⟨-, -, powerHaltsFraction⟩ := readExponent_found readExponent powerHalts
  have signless : Halts (fun c => decide (c = '-')) (unsigned ++ (part ++ power)) :=
    begins.halts (fun d digit => (not_sign_of_digit digit).2) _
  have foundSign : readSign (sign ++ (unsigned ++ (part ++ power))) =
      (sign, unsigned ++ (part ++ power)) := by
    have whole : (readSign sign).1 = sign := by
      obtain rfl | given := NumberExpression.mem_optional.mp signed
      · rfl
      · obtain ⟨mark, member, rfl⟩ := NumberExpression.mem_oneOf.mp given
        obtain rfl := List.mem_singleton.mp member
        rfl
    have found := readSign_found sign signless
    rwa [whole] at found
  intro raw
  simp only [raw, number, foundSign, foundWhole (partHalts.append powerHalts),
    foundFraction powerHaltsFraction, readExponent, checkEnd]

/-- A numeral by itself is a number of its kind. -/
theorem number_numeral {numeral : Text} (spelled : numeral ∈ NumberExpression.number.matches') :
    number numeral = .ok ⟨NumberExpression.kind numeral, numeral, numeral, []⟩ := by
  have missing (expression : RegularExpression CodePoint) :
      [] ∈ (NumberExpression.optional expression).matches' :=
    NumberExpression.mem_optional.mpr (.inl rfl)
  by_cases integral : numeral ∈ NumberExpression.int.matches'
  · obtain ⟨sign, signed, unsigned, given, rfl⟩ := NumberExpression.mem_int.mp integral
    have read := number_parts signed given (missing _) (missing _)
    rw [NumberExpression.kind, if_pos integral]
    simpa using read
  · obtain ⟨front, int, part, pointed, power, scaled, rfl⟩ := NumberExpression.mem_number.mp spelled
    obtain ⟨sign, signed, unsigned, given, rfl⟩ := NumberExpression.mem_int.mp int
    have read := number_parts signed given pointed scaled
    have more : (part.isEmpty && power.isEmpty) = false := by
      rw [Bool.and_eq_false_iff, List.isEmpty_eq_false_iff, List.isEmpty_eq_false_iff]
      by_contra! none
      obtain ⟨rfl, rfl⟩ := none
      apply integral
      simpa using int
    rw [NumberExpression.kind, if_neg integral]
    rw [more] at read
    simpa using read

/-- What is read as a number is a numeral. -/
theorem number_mem {text : Text} {lexeme : Lexeme} (accepted : number text = .ok lexeme) :
    lexeme.raw ∈ NumberExpression.number.matches' := by
  simp only [number] at accepted
  split at accepted
  · cases accepted
  · next unsigned afterWhole readWhole =>
    split at accepted
    · cases accepted
    · next part afterFraction readFraction =>
      split at accepted
      · cases accepted
      · next power rest readExponent =>
        split at accepted
        · cases accepted
        · cases accepted
          have signed : (readSign text).1 ∈
              (NumberExpression.optional (NumberExpression.oneOf ['-'])).matches' := by
            rw [NumberExpression.mem_optional, NumberExpression.mem_oneOf]
            cases text with
            | nil => exact .inl rfl
            | cons c text =>
              simp only [readSign]
              split
              · next minus => exact .inr ⟨'-', by simp, by rw [minus]⟩
              · exact .inl rfl
          have int := NumberExpression.mem_int.mpr
            ⟨_, signed, unsigned, readWhole_follows.sound readWhole, rfl⟩
          rw [← List.append_assoc]
          have pointed := readFraction_follows.sound readFraction
          have scaled := readExponent_follows.sound readExponent
          exact NumberExpression.mem_number.mpr ⟨_, int, part, pointed, power, scaled, rfl⟩

/-- A numeral is read in front of what does not look like more of a number. -/
theorem number_before {numeral behind : Text} (spelled : numeral ∈ NumberExpression.number.matches')
    (halts : Halts Number.goesOn behind) :
    number (numeral ++ behind) = .ok ⟨NumberExpression.kind numeral, numeral, numeral, behind⟩ :=
  (number_found (number_numeral spelled)).2 halts

/-- In front of what does not look like more of a number, no numeral is longer than the one that
ends there. -/
theorem longestMatch_of_halts {numeral behind : Text}
    (spelled : numeral ∈ NumberExpression.number.matches') (halts : Halts Number.goesOn behind) :
    LongestMatch NumberExpression.number (numeral ++ behind) numeral := by
  refine ⟨List.prefix_append numeral behind, spelled, ?_⟩
  intro other begins matched
  by_contra! longer
  obtain ⟨more, rfl⟩ := List.prefix_of_prefix_length_le (List.prefix_append numeral behind) begins
    longer.le
  obtain ⟨rest, rfl⟩ := (List.prefix_append_right_inj numeral).mp begins
  -- The longer numeral would be read whole and also only up to the shorter one.
  have same := (number_before spelled halts.front).symm.trans (number_numeral matched)
  injection same with same
  injection same with kind value raw rest
  rw [← raw] at longer
  exact absurd longer (lt_irrefl _)

/-- A number is read exactly if the longest numeral at the start of the text has nothing behind
it that looks like more of a number, and then it is that numeral. -/
theorem number_iff {text : Text} {lexeme : Lexeme} :
    number text = .ok lexeme ↔ ∃ numeral behind, text = numeral ++ behind ∧
      LongestMatch NumberExpression.number text numeral ∧ Halts Number.goesOn behind ∧
      lexeme = ⟨NumberExpression.kind numeral, numeral, numeral, behind⟩ := by
  constructor
  · intro accepted
    have spelled := number_mem accepted
    obtain ⟨halts, -⟩ := number_found accepted
    have split := (number_splits accepted).1
    refine ⟨lexeme.raw, lexeme.rest, split.symm, ?_, halts, ?_⟩
    · rw [← split]
      exact longestMatch_of_halts spelled halts
    · rw [← split] at accepted
      exact Except.ok.inj (accepted.symm.trans (number_before spelled halts))
  · rintro ⟨numeral, behind, rfl, longest, halts, rfl⟩
    exact number_before longest.matched halts

end Lexeme

end SchemaForge

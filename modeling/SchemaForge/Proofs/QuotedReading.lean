import SchemaForge.Proofs.BindingsListing
import SchemaForge.Proofs.QuotedStrings

/-!
# Reading a quoted text

A quoted text is read from its opening quote to the next quote of the same kind that no
backslash takes. A backslash takes the code points behind it: a mark that stands for a single
code point, or the letter of a number in two, four or eight hexadecimal digits. A line end
inside the quotes, an escape of another form and a number that is too large make the text
unreadable, and so do three quotes at the beginning, which open a literal of another kind.

Whatever the text, its quoted form is read as this text and ends where it ends, as long as no
quote follows. This goes unit by unit: no unit of a quoted text begins with the closing quote,
and each is read as the code point it was written for.
-/

namespace SchemaForge

namespace Quoted

/-! ## The reader -/

/-- The marks that stand for a single code point behind a backslash. -/
def plainEscapes : List (CodePoint × CodePoint) :=
  [(.backslash, .backslash), (.apostrophe, .apostrophe), (.quote, .quote),
    (('n' : Char), .lineFeed), (('r' : Char), .carriageReturn), (('t' : Char), .tab)]

/-- The marks that a number follows, with the number of its digits. -/
def numberedEscapes : List (CodePoint × Nat) :=
  [(('x' : Char), 2), (('u' : Char), 4), (('U' : Char), 8)]

/-- The code point of a number in so many hexadecimal digits, and what is behind them. -/
def readNumber (width : Nat) (text : Text) : Option (CodePoint × Text) :=
  let digits := text.take width
  let number := Text.toNat 16 digits
  if digits.length = width ∧ digits.all CodePoint.isHexDigit then
    if valid : number < 0x110000 then some (⟨number, valid⟩, text.drop width) else none
  else none

/-- The code point of an escape, of which the backslash has been read, and what is behind it. -/
def readEscape : Text → Option (CodePoint × Text)
  | [] => none
  | mark :: rest =>
    match plainEscapes.lookup mark with
    | some c => some (c, rest)
    | none => (numberedEscapes.lookup mark).bind (fun width => readNumber width rest)

/-- The next code point between the quotes, and what is behind it. -/
def readUnit : Text → Option (CodePoint × Text)
  | [] => none
  | c :: rest =>
    if c = .backslash then readEscape rest
    else if c = .lineFeed ∨ c = .carriageReturn then none
    else some (c, rest)

/-- Reading an escape leaves less. -/
theorem length_readEscape {c : CodePoint} {text behind : Text}
    (read : readEscape text = some (c, behind)) : behind.length < text.length := by
  cases text with
  | nil => cases read
  | cons mark rest =>
    rw [List.length_cons, Nat.lt_succ_iff]
    simp only [readEscape] at read
    split at read
    · cases read
      exact Nat.le_refl _
    · obtain ⟨width, -, numbered⟩ := Option.bind_eq_some_iff.mp read
      simp only [readNumber] at numbered
      split at numbered
      · split at numbered
        · cases numbered
          simp
        · cases numbered
      · cases numbered

/-- Reading a code point leaves less. -/
theorem length_readUnit {c : CodePoint} {text behind : Text}
    (read : readUnit text = some (c, behind)) : behind.length < text.length := by
  cases text with
  | nil => cases read
  | cons first rest =>
    rw [List.length_cons]
    simp only [readUnit] at read
    split at read
    · exact Nat.lt_succ_of_lt (length_readEscape read)
    · split at read
      · cases read
      · cases read
        exact Nat.lt_succ_self _

/-- The code points up to the closing quote, and what is behind it. -/
def readUnits (mark : CodePoint) (text : Text) : Option (Text × Text) :=
  match text with
  | [] => none
  | c :: rest =>
    if c = mark then some ([], rest)
    else
      match read : readUnit (c :: rest) with
      | none => none
      | some (unit, behind) =>
        have := length_readUnit read
        (readUnits mark behind).map (fun (units, behind) => (unit :: units, behind))
termination_by text.length
decreasing_by assumption

/-- What a text may be quoted with. -/
def isMark (c : CodePoint) : Bool := c = .apostrophe || c = .quote

/-- A text between quotes, and what is behind it. -/
def read : Text → Option (Text × Text)
  | [] => none
  | mark :: rest =>
    if isMark mark then
      match Text.after? rest [mark, mark] with
      | some _ => none
      | none => readUnits mark rest
    else none

/-! ## Numbers -/

/-- A hexadecimal digit has the value it was written for. -/
theorem hexDigit_digitChar {value : Nat} (small : value < 16) :
    HexDigit (.ofChar (Nat.digitChar value)) value := by
  have all : ∀ value < 16, (CodePoint.ofChar (Nat.digitChar value)).isHexDigit = true ∧
      (CodePoint.ofChar (Nat.digitChar value)).hexValue = value := by decide
  exact hexDigit_iff.mpr (all value small)

/-- A row of digits and one more spell sixteen times the number and the digit. -/
theorem toNat_append (digits : Text) {c : CodePoint} {value : Nat} (digit : HexDigit c value) :
    Text.toNat 16 (digits ++ [c]) = 16 * Text.toNat 16 digits + value := by
  rw [Text.toNat, List.foldl_append, List.foldl_cons, List.foldl_nil, (hexDigit_iff.mp digit).2,
    Text.toNat]

/-- The digits of a number spell the number. -/
theorem toNat_toDigits (number : Nat) :
    let digits := (Nat.toDigits 16 number).map CodePoint.ofChar
    digits.all CodePoint.isHexDigit = true ∧ Text.toNat 16 digits = number := by
  induction number using Nat.strongRecOn with
  | ind number inductionHypothesis =>
    intro digits
    by_cases small : number < 16
    · have digit := hexDigit_digitChar small
      have single : digits = [] ++ [CodePoint.ofChar (Nat.digitChar number)] := by
        simp only [digits, Nat.toDigits_of_lt_base small]
        rfl
      rw [single, toNat_append [] digit]
      exact ⟨by simp [(hexDigit_iff.mp digit).1], Nat.zero_add number⟩
    · have last : number % 16 < 16 := Nat.mod_lt number (by decide)
      have digit := hexDigit_digitChar last
      have split : digits = (Nat.toDigits 16 (number / 16)).map CodePoint.ofChar ++
          [CodePoint.ofChar (Nat.digitChar (number % 16))] := by
        have joined := Nat.toDigits_append_toDigits (b := 16) (by decide)
          (by omega : 0 < number / 16) last
        rw [Nat.div_add_mod, Nat.toDigits_of_lt_base last] at joined
        simp only [digits, ← joined, List.map_append, List.map_singleton]
      obtain ⟨hexadecimal, spelled⟩ := inductionHypothesis (number / 16) (by omega)
      rw [split, toNat_append _ digit, spelled, Nat.div_add_mod]
      exact ⟨by simp [hexadecimal, (hexDigit_iff.mp digit).1], rfl⟩

/-- Zeros in front of digits change nothing. -/
theorem toNat_zeros (count : Nat) (digits : Text) :
    Text.toNat 16 (List.replicate count (CodePoint.ofChar '0') ++ digits) =
      Text.toNat 16 digits := by
  induction count with
  | zero => rfl
  | succ count inductionHypothesis =>
    rw [← inductionHypothesis]
    rfl

variable {c mark : CodePoint} {width : Nat}

/-- A number that is padded to a width it fits in is read back. -/
theorem readNumber_padded (fits : (Nat.toDigits 16 c.val).length ≤ width) (behind : Text) :
    readNumber width (Text.padded 16 width c.val ++ behind) = some (c, behind) := by
  obtain ⟨hexadecimal, spelled⟩ := toNat_toDigits c.val
  have length : (Text.padded 16 width c.val).length = width := by
    simp only [Text.padded, List.length_append, List.length_replicate, List.length_map]
    omega
  have all : (Text.padded 16 width c.val).all CodePoint.isHexDigit = true := by
    have zero : (CodePoint.ofChar '0').isHexDigit = true := by decide
    rw [Text.padded, List.all_append, hexadecimal, Bool.and_true, List.all_replicate, zero,
      ite_self]
  have number : Text.toNat 16 (Text.padded 16 width c.val) = c.val := by
    rw [Text.padded, toNat_zeros, spelled]
  have front : (Text.padded 16 width c.val ++ behind).take width = Text.padded 16 width c.val :=
    List.take_left' length
  have back : (Text.padded 16 width c.val ++ behind).drop width = behind :=
    List.drop_left' length
  simp only [readNumber, front, back, length, all, number]
  simp [c.valid]

/-- A code point that is written by its number is read back. -/
theorem readUnit_numberEscape (c : CodePoint) (behind : Text) :
    readUnit (Text.numberEscape c ++ behind) = some (c, behind) := by
  have numbered {mark : CodePoint} {width : Nat} (unlisted : plainEscapes.lookup mark = none)
      (listed : numberedEscapes.lookup mark = some width) (given : 0 < width)
      (fits : c.val < 16 ^ width) :
      readUnit (.backslash :: mark :: (Text.padded 16 width c.val ++ behind)) =
        some (c, behind) := by
    have short := (Nat.length_toDigits_le_iff (b := 16) (by decide) given).mpr fits
    simp only [readUnit, readEscape, unlisted, listed, ↓reduceIte, Option.bind_some]
    exact readNumber_padded short behind
  unfold Text.numberEscape
  split
  · exact numbered (by decide) (by decide) (by decide) (by omega)
  · split
    · exact numbered (by decide) (by decide) (by decide) (by omega)
    · have bound := c.valid
      exact numbered (by decide) (by decide) (by decide) (by omega)

/-! ## Units of a quoted text -/

/-- There are two quotes. -/
theorem eq_of_isMark (quotes : isMark mark = true) : mark = .apostrophe ∨ mark = .quote := by
  simpa [isMark] using quotes

/-- How a code point may be written between two quotes of a kind. -/
inductive UnitForm (mark c : CodePoint) : Text → Prop where
  /-- By a mark behind a backslash. -/
  | escaped {sign : CodePoint} (listed : plainEscapes.lookup sign = some c) :
      UnitForm mark c [.backslash, sign]
  /-- As itself. -/
  | plain (other : c ≠ mark) (unescaped : c ≠ .backslash)
      (sameLine : ¬ (c = .lineFeed ∨ c = .carriageReturn)) : UnitForm mark c [c]
  /-- By its number. -/
  | numbered : UnitForm mark c (Text.numberEscape c)

/-- A unit of a quoted text has one of the forms. -/
theorem unitForm_quotedUnit (quotes : isMark mark = true) (c : CodePoint) :
    UnitForm mark c (Text.quotedUnit mark c) := by
  unfold Text.quotedUnit
  split
  · next doubled =>
    have self : plainEscapes.lookup c = some c := by
      obtain rfl | rfl : c = mark ∨ c = .backslash := by simpa using doubled
      · obtain rfl | rfl := eq_of_isMark quotes <;> decide
      · decide
    exact .escaped self
  · next single =>
    obtain ⟨other, unescaped⟩ : c ≠ mark ∧ c ≠ .backslash := by simpa using single
    split
    · next feed =>
      rw [feed]
      exact .escaped (by decide)
    · next noFeed =>
      split
      · next back =>
        rw [back]
        exact .escaped (by decide)
      · next noReturn =>
        split
        · next tab =>
          rw [tab]
          exact .escaped (by decide)
        · split
          · exact .plain other unescaped (not_or.mpr ⟨noFeed, noReturn⟩)
          · exact .numbered

/-- A unit of a quoted text is read as the code point it was written for. -/
theorem readUnit_quotedUnit (quotes : isMark mark = true) (c : CodePoint) (behind : Text) :
    readUnit (Text.quotedUnit mark c ++ behind) = some (c, behind) := by
  have form := unitForm_quotedUnit quotes c
  generalize Text.quotedUnit mark c = unit at form ⊢
  cases form with
  | escaped listed =>
    rw [List.cons_append, List.singleton_append]
    simp only [readUnit, readEscape, listed, ↓reduceIte]
  | plain other unescaped sameLine =>
    rw [List.singleton_append, readUnit, if_neg unescaped, if_neg sameLine]
  | numbered => exact readUnit_numberEscape c behind

/-- No unit of a quoted text begins with the closing quote. -/
theorem quotedUnit_begins (quotes : isMark mark = true) (c : CodePoint) :
    ∃ first others, Text.quotedUnit mark c = first :: others ∧ first ≠ mark := by
  have backslash : CodePoint.backslash ≠ mark := by
    obtain rfl | rfl := eq_of_isMark quotes <;> decide
  have form := unitForm_quotedUnit quotes c
  generalize Text.quotedUnit mark c = unit at form ⊢
  cases form with
  | escaped listed => exact ⟨_, _, rfl, backslash⟩
  | plain other unescaped sameLine => exact ⟨c, [], rfl, other⟩
  | numbered =>
    unfold Text.numberEscape
    split
    · exact ⟨_, _, rfl, backslash⟩
    · split <;> exact ⟨_, _, rfl, backslash⟩

/-- The units of a text are read up to the closing quote. -/
theorem readUnits_quotedUnits (quotes : isMark mark = true) (text behind : Text) :
    readUnits mark (text.flatMap (Text.quotedUnit mark) ++ mark :: behind) =
      some (text, behind) := by
  induction text with
  | nil =>
    rw [List.flatMap_nil, List.nil_append, readUnits]
    simp
  | cons c text inductionHypothesis =>
    obtain ⟨first, others, begins, other⟩ := quotedUnit_begins quotes c
    have unit := readUnit_quotedUnit quotes c
      (text.flatMap (Text.quotedUnit mark) ++ mark :: behind)
    rw [begins, List.cons_append] at unit
    rw [List.flatMap_cons, List.append_assoc, begins, List.cons_append, readUnits, if_neg other]
    split
    · next unread => cases unread.symm.trans unit
    · next found =>
      cases found.symm.trans unit
      rw [inductionHypothesis]
      rfl

/-- Three quotes do not open a quoted text, unless a quote follows it. -/
theorem after?_quotedUnits (quotes : isMark mark = true) (text : Text) {behind : Text}
    (halts : Halts isMark behind) :
    Text.after? (text.flatMap (Text.quotedUnit mark) ++ mark :: behind) [mark, mark] = none := by
  cases text with
  | nil =>
    cases behind with
    | nil => simp [Text.after?]
    | cons c behind =>
      have other : c ≠ mark := by
        rintro rfl
        exact absurd quotes (by simp [halts c rfl])
      simp [Text.after?, other]
  | cons c text =>
    obtain ⟨first, others, begins, other⟩ := quotedUnit_begins quotes c
    simp [begins, Text.after?, other]

/-- A text is quoted with a quote. -/
theorem isMark_quoteMark (text : Text) : isMark (Text.quoteMark text) = true := by
  unfold Text.quoteMark
  split <;> decide

/-- A quoted text is read back where no quote follows. -/
theorem read_quoted (text : Text) {behind : Text} (halts : Halts isMark behind) :
    read (Text.quoted text ++ behind) = some (text, behind) := by
  have quotes := isMark_quoteMark text
  simp only [Text.quoted, List.append_assoc, List.cons_append, List.nil_append, read, quotes,
    ↓reduceIte, after?_quotedUnits quotes text halts]
  exact readUnits_quotedUnits quotes text behind

end Quoted

end SchemaForge

import SchemaForge.Proofs.NumberScanning
import SchemaForge.Proofs.QuotedReading
import SchemaForge.Proofs.NodeSpans

/-!
# Reading a literal

The literals of generated code are read by rules that know nothing of values: a quoted text, a
word, a number, a list or a dictionary, with layout and commas between the items and possibly a
comma behind the last one. What else the language of generated code would take, such as other
words, operators or texts put together, is not read at all. Reading is a function, so a text
says one constant at most.

The literal of a value says what the value is. By the shape of the value, each literal is read
wherever it stands, as long as nothing follows that could belong to it; behind a literal there
is only a comma, a colon or a closing bracket. What a quoted text holds is never looked at as
structure, because it is read with its quotes.

A number is written as it was spelled in the schema. That generated code can read it is owed to
the scan, which takes fewer spellings than generated code does.
-/

namespace SchemaForge

/-! ## Numbers of generated code -/

namespace NumberExpression

/-- `0+|[1-9][0-9]*` -/
def integerLiteral : RegularExpression CodePoint :=
  oneOf ['0'] * (oneOf ['0']).star + range '1' '9' * digit.star

/-- `[0-9]*\.[0-9]+|[0-9]+\.` -/
def pointedLiteral : RegularExpression CodePoint := digit.star * fraction + digits * oneOf ['.']

/-- What a number of generated code may be spelled like: an integer, or digits with a point, an
exponent or both. A minus sign may stand in front. -/
def numberLiteral : RegularExpression CodePoint :=
  optional (oneOf ['-']) *
    (integerLiteral + (pointedLiteral + (digits + pointedLiteral) * exponent))

variable {text : Text}

/-- A whole part is an integer of generated code. -/
theorem mem_integerLiteral (spelled : text ∈ whole.matches') : text ∈ integerLiteral.matches' := by
  obtain zero | other := mem_add.mp spelled
  · have none : [] ∈ (oneOf ['0']).star.matches' := by
      rw [RegularExpression.matches'_star]
      exact Language.nil_mem_kstar _
    exact mem_add.mpr (.inl (mem_mul.mpr ⟨text, zero, [], none, List.append_nil text⟩))
  · exact mem_add.mpr (.inr other)

/-- A whole part is a run of digits. -/
theorem mem_digits_of_whole (spelled : text ∈ whole.matches') : text ∈ digits.matches' := by
  rw [mem_digits]
  obtain rfl | ⟨c, others, between, further, rfl⟩ := mem_whole.mp spelled
  · exact ⟨_, [], by decide, by simp, rfl⟩
  · refine ⟨c, others, ?_, further, rfl⟩
    simp only [CodePoint.isDigit, CodePoint.between, Bool.and_eq_true, decide_eq_true_eq]
      at between ⊢
    exact ⟨Nat.le_trans (by decide) between.1, between.2⟩

/-- What the schema language spells as a number is one in generated code. -/
theorem mem_numberLiteral (spelled : text ∈ number.matches') : text ∈ numberLiteral.matches' := by
  obtain ⟨front, int, part, pointed, power, scaled, rfl⟩ := mem_number.mp spelled
  obtain ⟨sign, signed, unsigned, begins, rfl⟩ := mem_int.mp int
  have run := mem_digits_of_whole begins
  refine mem_mul.mpr ⟨sign, signed, unsigned ++ (part ++ power), ?_, by simp⟩
  -- A number with a fraction has a point, and a number with an exponent has digits in front of it.
  have front : part ≠ [] → unsigned ++ part ∈ pointedLiteral.matches' := by
    intro given
    obtain none | fractional := mem_optional.mp pointed
    · exact absurd none given
    · obtain ⟨c, others, decimal, further, rfl⟩ := mem_digits.mp run
      have row := mem_digit_star.mpr (List.forall_mem_cons.mpr ⟨decimal, further⟩)
      exact mem_add.mpr (.inl (mem_mul.mpr ⟨_, row, part, fractional, rfl⟩))
  obtain rfl | powered := mem_optional.mp scaled
  · rw [List.append_nil]
    by_cases given : part = []
    · rw [given, List.append_nil]
      exact mem_add.mpr (.inl (mem_integerLiteral begins))
    · exact mem_add.mpr (.inr (mem_add.mpr (.inl (front given))))
  · have mantissa : unsigned ++ part ∈ (digits + pointedLiteral).matches' := by
      by_cases given : part = []
      · rw [given, List.append_nil]
        exact mem_add.mpr (.inl run)
      · exact mem_add.mpr (.inr (front given))
    rw [← List.append_assoc]
    exact mem_add.mpr (.inr (mem_add.mpr (.inr (mem_mul.mpr ⟨_, mantissa, power, powered, rfl⟩))))

end NumberExpression

/-! ## The reader -/

/-- What a literal says. -/
inductive Constant where
  /-- A text. -/
  | text (said : Text)
  /-- A number, as it is spelled. -/
  | number (numeral : Text)
  | boolean (yes : Bool)
  /-- Nothing. -/
  | none
  /-- The elements of a list. -/
  | list (elements : List Constant)
  /-- Names and what is entered under them, in order. -/
  | dictionary (entries : List (Text × Constant))

namespace Constant

/-- What words and numbers are made of. -/
def isWordUnit (c : CodePoint) : Bool :=
  c.isNameRest || decide (c = '.') || decide (c = '+') || decide (c = '-')

/-- What a word or a number says. -/
def ofWord (word : Text) : Option Constant :=
  if word = "True" then some (.boolean true)
  else if word = "False" then some (.boolean false)
  else if word = "None" then some .none
  else if word ∈ NumberExpression.numberLiteral.matches' then some (.number word)
  else .none

/-- A word or a number, and what is behind it. -/
def readWord (text : Text) : Option (Constant × Text) :=
  (ofWord (text.takeWhile isWordUnit)).map (fun said => (said, text.dropWhile isWordUnit))

/-- What may stand between the parts of a display. -/
def isLayout (c : CodePoint) : Bool :=
  c = ' ' || c = .tab || c = .lineFeed || c = .carriageReturn

/-- What is behind a sign that may have layout on either side. -/
def readSign (sign : CodePoint) (text : Text) : Option Text :=
  match text.dropWhile isLayout with
  | [] => .none
  | c :: rest => if c = sign then some (rest.dropWhile isLayout) else .none

/-- The name of an entry, and what is behind the colon that follows it. -/
def readName (text : Text) : Option (Text × Text) :=
  match Quoted.read text with
  | .none => .none
  | some (name, behind) => (readSign ':' behind).map (fun behind => (name, behind))

/-- What may come behind an item of a display. -/
inductive Sequel where
  /-- The display is closed. -/
  | closed (behind : Text)
  /-- There may be another item. -/
  | further (behind : Text)

/-- What comes behind an item: the closing bracket or a comma. -/
def readSequel (closer : CodePoint) (text : Text) : Option Sequel :=
  match text.dropWhile isLayout with
  | [] => .none
  | c :: rest =>
    if c = closer then some (.closed rest)
    else if c = ',' then some (.further (rest.dropWhile isLayout))
    else .none

/-- Skipping layout adds nothing. -/
theorem length_dropWhile (text : Text) : (text.dropWhile isLayout).length ≤ text.length :=
  (List.dropWhile_suffix isLayout).length_le

mutual

/-- The constant at the start of a text, and what is behind it. -/
def read (text : Text) : Option (Constant × Text) :=
  match text with
  | [] => .none
  | c :: rest =>
    if Quoted.isMark c then
      (Quoted.read (c :: rest)).map (fun (said, behind) => (.text said, behind))
    else if c = '[' then
      (readElements (rest.dropWhile isLayout)).map
        (fun (elements, behind) => (.list elements, behind))
    else if c = '\x7b' then
      (readEntries (rest.dropWhile isLayout)).map
        (fun (entries, behind) => (.dictionary entries, behind))
    else readWord (c :: rest)
termination_by 2 * text.length
decreasing_by
  all_goals
    have shorter := length_dropWhile rest
    rw [List.length_cons]
    omega

/-- The elements of a list up to its closing bracket, and what is behind it. That an element
takes something of the text is asked for so that reading is seen to end. -/
def readElements (text : Text) : Option (List Constant × Text) :=
  match text with
  | [] => .none
  | c :: rest =>
    if c = ']' then some ([], rest)
    else
      match read (c :: rest) with
      | .none => .none
      | some (element, behind) =>
        match readSequel ']' behind with
        | .none => .none
        | some (.closed behind) => some ([element], behind)
        | some (.further more) =>
          if _ : more.length < (c :: rest).length then
            (readElements more).map (fun (elements, behind) => (element :: elements, behind))
          else .none
termination_by 2 * text.length + 1
decreasing_by all_goals omega

/-- The entries of a dictionary up to its closing brace, and what is behind it. That a name takes
something of the text, and an entry, is asked for so that reading is seen to end. -/
def readEntries (text : Text) : Option (List (Text × Constant) × Text) :=
  match text with
  | [] => .none
  | c :: rest =>
    if c = '\x7d' then some ([], rest)
    else
      match readName (c :: rest) with
      | .none => .none
      | some (name, behind) =>
        if _ : behind.length < (c :: rest).length then
          match read behind with
          | .none => .none
          | some (value, behind) =>
            match readSequel '\x7d' behind with
            | .none => .none
            | some (.closed behind) => some ([(name, value)], behind)
            | some (.further more) =>
              if _ : more.length < (c :: rest).length then
                (readEntries more).map (fun (entries, behind) => ((name, value) :: entries, behind))
              else .none
        else .none
termination_by 2 * text.length + 1
decreasing_by all_goals omega

end

/-- The constant that a whole text says. -/
def ofLiteral (text : Text) : Option Constant :=
  match read text with
  | some (constant, []) => some constant
  | _ => .none

end Constant

mutual

/-- What a value is in generated code. -/
def Value.constant : Value → Constant
  | .string value _ _ => .text value
  | .int digits _ => .number digits
  | .float digits _ => .number digits
  | .boolean value _ => .boolean value
  | .null _ => .none
  | .enum symbol _ => .text symbol
  | .list values _ => .list (Value.constants values)
  | .object fields _ => .dictionary (ObjectField.entries fields)

/-- What the values of a list are. -/
def Value.constants : List Value → List Constant
  | [] => []
  | value :: values => value.constant :: Value.constants values

/-- What the fields of an object are, in order. -/
def ObjectField.entries : List ObjectField → List (Text × Constant)
  | [] => []
  | field :: fields => ObjectField.entry field :: ObjectField.entries fields

/-- What one field of an object is. -/
def ObjectField.entry : ObjectField → Text × Constant
  | .mk name value _ => (name, value.constant)

end

/-! ## Words and numbers -/

namespace Constant

variable {c : CodePoint} {text word behind : Text}

/-- Units of words end no line. -/
theorem not_isLineEnd_of_isWordUnit (unit : isWordUnit c = true) : c.isLineEnd = false := by
  have visible : 0x2B ≤ c.val ∧ c.val ≤ 0x7A := by
    simp only [isWordUnit, CodePoint.isNameRest, CodePoint.isNameStart, CodePoint.isUpper,
      CodePoint.isLower, CodePoint.isDigit, CodePoint.between, Bool.or_eq_true, Bool.and_eq_true,
      decide_eq_true_eq] at unit
    obtain ((((((upper | lower) | rfl) | decimal) | rfl) | rfl) | rfl) := unit
    · exact ⟨Nat.le_trans (by decide) upper.1, Nat.le_trans upper.2 (by decide)⟩
    · exact ⟨Nat.le_trans (by decide) lower.1, Nat.le_trans lower.2 (by decide)⟩
    · decide
    · exact ⟨Nat.le_trans (by decide) decimal.1, Nat.le_trans decimal.2 (by decide)⟩
    all_goals decide
  rw [Bool.eq_false_iff]
  intro ended
  simp only [CodePoint.isLineEnd, Bool.or_eq_true, Bool.and_eq_true, decide_eq_true_eq] at ended
  omega

/-- A digit is a unit of words. -/
theorem isWordUnit_of_isDigit (decimal : c.isDigit = true) : isWordUnit c = true := by
  simp [isWordUnit, CodePoint.isNameRest, decimal]

/-- A run of digits is made of units of words. -/
theorem isWordUnit_of_digits (spelled : text ∈ NumberExpression.digits.matches') :
    ∀ c ∈ text, isWordUnit c = true := by
  obtain ⟨first, others, begins, further, rfl⟩ := NumberExpression.mem_digits.mp spelled
  rw [List.forall_mem_cons]
  exact ⟨isWordUnit_of_isDigit begins, fun d member => isWordUnit_of_isDigit (further d member)⟩

/-- One of some characters that are units of words is made of such units. -/
theorem isWordUnit_of_optional {characters : List Char}
    (units : characters.all (fun c => isWordUnit (.ofChar c)) = true)
    (spelled : text ∈ (NumberExpression.optional (NumberExpression.oneOf characters)).matches') :
    ∀ c ∈ text, isWordUnit c = true := by
  obtain rfl | given := NumberExpression.mem_optional.mp spelled
  · simp
  · obtain ⟨c, listed, rfl⟩ := NumberExpression.mem_oneOf.mp given
    exact List.forall_mem_singleton.mpr (List.all_eq_true.mp units c listed)

/-- A number is made of units of words. -/
theorem isWordUnit_of_number (spelled : text ∈ NumberExpression.number.matches') :
    ∀ c ∈ text, isWordUnit c = true := by
  obtain ⟨front, int, part, pointed, power, scaled, rfl⟩ := NumberExpression.mem_number.mp spelled
  obtain ⟨sign, signed, unsigned, begins, rfl⟩ := NumberExpression.mem_int.mp int
  simp only [List.forall_mem_append]
  have run := isWordUnit_of_digits (NumberExpression.mem_digits_of_whole begins)
  refine ⟨⟨isWordUnit_of_optional (by decide) signed, run⟩, ?_, ?_⟩
  · obtain rfl | fractional := NumberExpression.mem_optional.mp pointed
    · simp
    · obtain ⟨run, decimal, rfl⟩ := NumberExpression.mem_fraction.mp fractional
      exact List.forall_mem_cons.mpr ⟨by decide, isWordUnit_of_digits decimal⟩
  · obtain rfl | powered := NumberExpression.mem_optional.mp scaled
    · simp
    · obtain ⟨letter, listed, sign, signed, run, decimal, rfl⟩ :=
        NumberExpression.mem_exponent.mp powered
      have marks : ['e', 'E'].all (fun letter => isWordUnit (.ofChar letter)) = true := by decide
      rw [List.forall_mem_cons, List.forall_mem_append]
      exact ⟨List.all_eq_true.mp marks letter listed, isWordUnit_of_optional (by decide) signed,
        isWordUnit_of_digits decimal⟩

/-- A number begins with a minus sign or a digit. -/
theorem number_begins (spelled : text ∈ NumberExpression.number.matches') :
    ∃ c rest, text = c :: rest ∧ (c = '-' ∨ c.isDigit = true) := by
  obtain ⟨front, int, part, -, power, -, rfl⟩ := NumberExpression.mem_number.mp spelled
  obtain ⟨sign, signed, unsigned, begins, rfl⟩ := NumberExpression.mem_int.mp int
  obtain rfl | given := NumberExpression.mem_optional.mp signed
  · obtain ⟨c, others, decimal, -, rfl⟩ :=
      NumberExpression.mem_digits.mp (NumberExpression.mem_digits_of_whole begins)
    exact ⟨c, _, rfl, .inr decimal⟩
  · obtain ⟨mark, listed, rfl⟩ := NumberExpression.mem_oneOf.mp given
    obtain rfl := List.mem_singleton.mp listed
    exact ⟨_, _, rfl, .inl rfl⟩

/-- What may not come behind a constant, or the constant would be read otherwise. -/
def goesOn (c : CodePoint) : Bool := isWordUnit c || Quoted.isMark c

/-- A word is read as far as it goes. -/
theorem read_word {constant : Constant} (said : ofWord word = some constant) (given : word ≠ [])
    (units : ∀ c ∈ word, isWordUnit c = true) (halts : Halts isWordUnit behind) :
    read (word ++ behind) = some (constant, behind) := by
  obtain ⟨c, rest, rfl⟩ := List.exists_cons_of_ne_nil given
  have unit := units c List.mem_cons_self
  have noMark : ¬ Quoted.isMark c = true := by
    intro mark
    obtain rfl | rfl := Quoted.eq_of_isMark mark <;> exact absurd unit (by decide)
  have noBracket : c ≠ '[' := by rintro rfl; exact absurd unit (by decide)
  have noBrace : c ≠ '\x7b' := by rintro rfl; exact absurd unit (by decide)
  have front : (c :: rest).takeWhile isWordUnit = c :: rest := by
    rw [← List.append_nil (c :: rest), List.takeWhile_append_of_pos units]
    rfl
  have taken := halts.takeWhile_append (c :: rest)
  have dropped := halts.dropWhile_append (c :: rest)
  rw [front, List.cons_append] at taken dropped
  rw [List.cons_append, read.eq_def]
  simp only [noMark, noBracket, noBrace, ↓reduceIte, Bool.false_eq_true]
  rw [readWord, taken, dropped, said]
  rfl

/-- A number says itself. -/
theorem ofWord_number (spelled : text ∈ NumberExpression.number.matches') :
    ofWord text = some (.number text) := by
  obtain ⟨c, rest, rfl, leads⟩ := number_begins spelled
  have other {word : Text} (upper : ∀ d ∈ word.head?, d.isUpper = true) : c :: rest ≠ word := by
    rintro rfl
    have capital := upper c rfl
    obtain rfl | decimal := leads
    · exact absurd capital (by decide)
    · simp only [CodePoint.isUpper, CodePoint.isDigit, CodePoint.between, Bool.and_eq_true,
        decide_eq_true_eq] at capital decimal
      exact absurd (Nat.le_trans capital.1 decimal.2) (by decide)
  rw [ofWord, if_neg (other (by decide)), if_neg (other (by decide)), if_neg (other (by decide)),
    if_pos (NumberExpression.mem_numberLiteral spelled)]

/-! ## Displays -/

/-- A text that is no layout at its beginning and closes no display. -/
def StartsItem (text : Text) : Prop :=
  ∃ c rest, text = c :: rest ∧ isLayout c = false ∧ c ≠ ']' ∧ c ≠ '\x7d'

/-- A text on one line that is read as a constant wherever it stands. -/
structure Says (text : Text) (constant : Constant) : Prop where
  /-- It ends no line. -/
  line : text.OnOneLine
  /-- It begins with something of its own. -/
  starts : StartsItem text
  /-- It is read as far as it goes. -/
  reads : ∀ behind, Halts goesOn behind → read (text ++ behind) = some (constant, behind)

/-- A text that is read as an entry of a dictionary. -/
inductive SaysEntry : Text → Text × Constant → Prop where
  | intro {name text : Text} {constant : Constant} (value : Says text constant) :
      SaysEntry (Text.quoted name ++ (": " ++ text)) (name, constant)

/-- What starts an item is not skipped as layout. -/
theorem StartsItem.dropWhile (starts : StartsItem text) (behind : Text) :
    (text ++ behind).dropWhile isLayout = text ++ behind := by
  obtain ⟨c, rest, rfl, plain, -⟩ := starts
  exact List.dropWhile_cons_of_neg (by simp [plain])

/-- A quoted text starts an item, whatever is behind it. -/
theorem startsItem_quoted (said behind : Text) : StartsItem (Text.quoted said ++ behind) := by
  have mark : Quoted.isMark (Text.quoteMark said) = true := Quoted.isMark_quoteMark said
  refine ⟨Text.quoteMark said, _, rfl, ?_⟩
  obtain same | same := Quoted.eq_of_isMark mark <;> rw [same] <;> decide

/-- A display is closed. -/
theorem readSequel_closed {closer : CodePoint} (plain : isLayout closer = false) (behind : Text) :
    readSequel closer (closer :: behind) = some (.closed behind) := by
  rw [readSequel, List.dropWhile_cons_of_neg (by simp [plain])]
  simp

/-- A display goes on behind a comma. -/
theorem readSequel_further {closer : CodePoint} (other : closer ≠ ',') (starts : StartsItem text) :
    readSequel closer (", " ++ (text ++ behind)) = some (.further (text ++ behind)) := by
  have stays := starts.dropWhile behind
  have comma : CodePoint.ofChar ',' ≠ closer := Ne.symm other
  change readSequel closer (',' :: ' ' :: (text ++ behind)) = _
  rw [readSequel, List.dropWhile_cons_of_neg (by decide)]
  simp only [comma, ↓reduceIte]
  rw [List.dropWhile_cons_of_pos (by decide), stays]

/-- A quoted name and a colon are read as a name. -/
theorem readName_quoted (name : Text) (starts : StartsItem text) (behind : Text) :
    readName (Text.quoted name ++ (": " ++ (text ++ behind))) = some (name, text ++ behind) := by
  have named : Quoted.read (Text.quoted name ++ (": " ++ (text ++ behind))) =
      some (name, ": " ++ (text ++ behind)) := Quoted.read_quoted name (.cons (by decide))
  have colon : readSign ':' (": " ++ (text ++ behind)) = some (text ++ behind) := by
    change readSign ':' (':' :: ' ' :: (text ++ behind)) = _
    rw [readSign, List.dropWhile_cons_of_neg (by decide)]
    simp only [↓reduceIte]
    rw [List.dropWhile_cons_of_pos (by decide), starts.dropWhile behind]
  rw [readName, named]
  simp only [colon, Option.map_some]

/-- A comma is not read with what is in front of it. -/
theorem halts_comma (behind : Text) : Halts goesOn (", " ++ behind) := by
  intro c first
  obtain rfl := Option.some.inj first
  decide

/-- What starts an item starts several. -/
theorem StartsItem.join (starts : StartsItem text) (separator : Text) (others : List Text) :
    StartsItem (Text.join separator (text :: others)) := by
  obtain ⟨c, rest, rfl, plain, other⟩ := starts
  cases others with
  | nil => exact ⟨c, rest, rfl, plain, other⟩
  | cons next others => exact ⟨c, _, rfl, plain, other⟩

/-- Behind an item that is not the last one comes a comma. -/
theorem join_append (next : Text) (others : List Text) :
    Text.join ", " (text :: next :: others) ++ behind =
      text ++ (", " ++ (Text.join ", " (next :: others) ++ behind)) := by
  simp [Text.join]

/-- What is behind a comma is shorter than the whole. -/
theorem shorter_behind (text more : Text) : more.length < (text ++ (", " ++ more)).length := by
  have comma : (", " : Text).length = 2 := rfl
  rw [List.length_append, List.length_append, comma]
  omega

/-- The brackets of a display. -/
def AreBrackets (opener closer : CodePoint) : Prop :=
  opener = '[' ∧ closer = ']' ∨ opener = '\x7b' ∧ closer = '\x7d'

/-- How the displays of one kind are read. -/
structure ReadsDisplay {α : Type} (opener closer : CodePoint) (item : Text → α → Prop)
    (reader : Text → Option (List α × Text)) (whole : List α → Constant) : Prop where
  /-- The brackets go together. -/
  brackets : AreBrackets opener closer
  /-- An item is on one line. -/
  line : ∀ {text value}, item text value → text.OnOneLine
  /-- An item begins with something of its own. -/
  starts : ∀ {text value}, item text value → StartsItem text
  /-- Behind the opening bracket stand items. -/
  opened : ∀ rest, read (opener :: rest) = (reader (rest.dropWhile isLayout)).map
    (fun (values, behind) => (whole values, behind))
  /-- There may be none. -/
  closed : ∀ behind, reader (closer :: behind) = some ([], behind)
  /-- An item is read, and then what comes behind it decides. -/
  step : ∀ {text value behind}, item text value → Halts goesOn behind →
    reader (text ++ behind) = (readSequel closer behind).bind fun
      | .closed rest => some ([value], rest)
      | .further more =>
        if more.length < (text ++ behind).length then
          (reader more).map (fun (values, rest) => (value :: values, rest))
        else .none

section Displays

variable {α : Type} {opener closer : CodePoint} {item : Text → α → Prop}
  {reader : Text → Option (List α × Text)} {whole : List α → Constant} {literals : List Text}
  {values : List α}

/-- The items of a display are read one by one. -/
theorem ReadsDisplay.join (display : ReadsDisplay opener closer item reader whole)
    (items : List.Forall₂ item literals values) (behind : Text) :
    reader (Text.join ", " literals ++ closer :: behind) = some (values, behind) := by
  obtain ⟨plain, other, halts⟩ :
      isLayout closer = false ∧ closer ≠ ',' ∧ goesOn closer = false := by
    obtain ⟨-, rfl⟩ | ⟨-, rfl⟩ := display.brackets <;> decide
  induction items with
  | nil => exact display.closed behind
  | cons first further inductionHypothesis =>
    cases further with
    | nil =>
      rw [Text.join, display.step first (.cons halts), readSequel_closed plain]
      rfl
    | cons next further =>
      rw [join_append, display.step first (halts_comma _),
        readSequel_further other ((display.starts next).join _ _), Option.bind_some]
      simp only [shorter_behind, inductionHypothesis, ↓reduceIte, Option.map_some]

/-- No layout is skipped in front of the items. -/
theorem ReadsDisplay.dropWhile_join (display : ReadsDisplay opener closer item reader whole)
    (items : List.Forall₂ item literals values) (behind : Text) :
    (Text.join ", " literals ++ closer :: behind).dropWhile isLayout =
      Text.join ", " literals ++ closer :: behind := by
  cases items with
  | nil =>
    obtain ⟨-, rfl⟩ | ⟨-, rfl⟩ := display.brackets <;> exact List.dropWhile_cons_of_neg (by decide)
  | cons first further => exact ((display.starts first).join _ _).dropWhile _

/-- Items on one line are so together. -/
theorem ReadsDisplay.line_join (display : ReadsDisplay opener closer item reader whole)
    (items : List.Forall₂ item literals values) : (Text.join ", " literals).OnOneLine := by
  have each : ∀ text ∈ literals, text.OnOneLine := by
    induction items with
    | nil => simp
    | cons first _ inductionHypothesis =>
      exact List.forall_mem_cons.mpr ⟨display.line first, inductionHypothesis⟩
  intro c member
  obtain between | ⟨text, listed, inside⟩ := Text.mem_join member
  · exact (by decide : Text.OnOneLine ", ") c between
  · exact each text listed c inside

/-- A display says its items. -/
theorem ReadsDisplay.says (display : ReadsDisplay opener closer item reader whole)
    (items : List.Forall₂ item literals values) :
    Says (Text.concat [[opener], Text.join ", " literals, [closer]]) (whole values) := by
  have line := display.line_join items
  have ends : Text.OnOneLine [opener] ∧ Text.OnOneLine [closer] := by
    obtain ⟨rfl, rfl⟩ | ⟨rfl, rfl⟩ := display.brackets <;> decide
  have starts : isLayout opener = false ∧ opener ≠ ']' ∧ opener ≠ '\x7d' := by
    obtain ⟨rfl, -⟩ | ⟨rfl, -⟩ := display.brackets <;> decide
  refine ⟨ends.1.append (line.append (ends.2.append (by decide))), ⟨_, _, rfl, starts⟩, ?_⟩
  intro behind _
  have split : Text.concat [[opener], Text.join ", " literals, [closer]] ++ behind =
      opener :: (Text.join ", " literals ++ closer :: behind) := by
    simp [Text.concat]
  rw [split, display.opened, display.dropWhile_join items, display.join items, Option.map_some]

end Displays

/-- Lists are read element by element. -/
theorem readsDisplay_list : ReadsDisplay '[' ']' Says readElements .list where
  brackets := .inl ⟨rfl, rfl⟩
  line := Says.line
  starts := Says.starts
  opened rest := by
    rw [read.eq_def]
    rfl
  closed behind := by
    rw [readElements.eq_def]
    simp
  step := by
    intro text element behind item halts
    obtain ⟨c, rest, begins, -, other, -⟩ := item.starts
    have said := item.reads behind halts
    rw [begins, List.cons_append] at said
    rw [begins, List.cons_append, readElements.eq_def]
    simp only [other, ↓reduceIte, said]
    cases readSequel ']' behind with
    | none => rfl
    | some sequel => cases sequel <;> rfl

/-- Dictionaries are read entry by entry, and each entry is a name and then a value. -/
theorem readsDisplay_dictionary :
    ReadsDisplay '\x7b' '\x7d' SaysEntry readEntries .dictionary where
  brackets := .inr ⟨rfl, rfl⟩
  line := by
    rintro _ _ ⟨value⟩
    exact (Text.quoted_onOneLine _).append (.append (by decide) value.line)
  starts := by
    rintro _ _ ⟨value⟩
    exact startsItem_quoted _ _
  opened rest := by
    rw [read.eq_def]
    rfl
  closed behind := by
    rw [readEntries.eq_def]
    simp
  step := by
    rintro _ _ behind (@⟨name, text, value, item⟩) halts
    obtain ⟨c, rest, begins, -, -, other⟩ := startsItem_quoted name []
    rw [List.append_nil] at begins
    have named := readName_quoted name item.starts behind
    have shorter : (text ++ behind).length <
        (Text.quoted name ++ (": " ++ (text ++ behind))).length := by
      simp only [begins, List.length_append, List.length_cons]
      omega
    rw [List.append_assoc, List.append_assoc]
    rw [begins, List.cons_append] at named shorter ⊢
    rw [readEntries.eq_def]
    simp only [other, ↓reduceIte, named, shorter, ↓reduceDIte, item.reads behind halts]
    cases readSequel '\x7d' behind with
    | none => rfl
    | some sequel => cases sequel <;> rfl

/-! ## Literals -/

/-- A quoted text says the text. -/
theorem says_quoted (said : Text) : Says (Text.quoted said) (.text said) := by
  have starts := startsItem_quoted said []
  rw [List.append_nil] at starts
  refine ⟨Text.quoted_onOneLine said, starts, ?_⟩
  intro behind halts
  have quoteless : Halts Quoted.isMark behind := halts.mono (fun c mark => by simp [goesOn, mark])
  have whole := Quoted.read_quoted said quoteless
  obtain ⟨mark, rest, split⟩ : ∃ mark rest, Text.quoted said ++ behind = mark :: rest ∧
      Quoted.isMark mark = true := ⟨_, _, rfl, Quoted.isMark_quoteMark said⟩
  rw [split.1] at whole ⊢
  rw [read.eq_def]
  simp only [split.2, ↓reduceIte, whole, Option.map_some]

/-- A word says what it does. -/
theorem says_word {constant : Constant} (said : ofWord word = some constant) (given : word ≠ [])
    (units : ∀ c ∈ word, isWordUnit c = true) : Says word constant := by
  refine ⟨fun c member => not_isLineEnd_of_isWordUnit (units c member), ?_, ?_⟩
  · obtain ⟨c, rest, rfl⟩ := List.exists_cons_of_ne_nil given
    have unit := units c List.mem_cons_self
    refine ⟨c, rest, rfl, ?_, ?_, ?_⟩
    · by_contra layout
      have mark : ((c = ' ' ∨ c = .tab) ∨ c = .lineFeed) ∨ c = .carriageReturn := by
        simpa only [isLayout, Bool.or_eq_true, decide_eq_true_eq, Bool.not_eq_false] using layout
      obtain ((rfl | rfl) | rfl) | rfl := mark <;> exact absurd unit (by decide)
    · rintro rfl
      exact absurd unit (by decide)
    · rintro rfl
      exact absurd unit (by decide)
  · intro behind halts
    exact read_word said given units (halts.mono (fun c unit => by simp [goesOn, unit]))

/-- A number says itself. -/
theorem says_number (spelled : text ∈ NumberExpression.number.matches') :
    Says text (.number text) := by
  obtain ⟨c, rest, split, -⟩ := number_begins spelled
  exact says_word (ofWord_number spelled) (by simp [split]) (isWordUnit_of_number spelled)

/-- A truth value is a word. -/
theorem says_boolean (yes : Bool) : Says (if yes then "True" else "False") (.boolean yes) := by
  cases yes <;> exact says_word rfl (by decide) (by decide)

/-- Nothing is a word. -/
theorem says_none : Says "None" .none := says_word rfl (by decide) (by decide)

end Constant

/-! ## Values -/

/-- What is inside a node is inside whatever the node is inside of. -/
theorem SyntaxNode.Inside.trans {child node root : SyntaxNode} (inner : Inside child node)
    (outer : Inside node root) : Inside child root := by
  induction inner with
  | itself => exact outer
  | child _ member inductionHypothesis => exact .child (inductionHypothesis outer) member

/-- All numbers inside a value are spelled like numbers. -/
def Value.Numeric (value : Value) : Prop :=
  ∀ digits span, SyntaxNode.Inside (.value (.int digits span)) (.value value) ∨
    SyntaxNode.Inside (.value (.float digits span)) (.value value) →
      digits ∈ NumberExpression.number.matches'

/-- So are those inside a part of it. -/
theorem Value.Numeric.inside {value part : Value} (numeric : value.Numeric)
    (inside : SyntaxNode.Inside (.value part) (.value value)) : part.Numeric := by
  intro digits span found
  apply numeric digits span
  exact found.imp (fun there => there.trans inside) (fun there => there.trans inside)

/-- The nodes of one kind between brackets are all inside. -/
theorem Piece.mem_enclosed {α : Type} (kind : α → SyntaxNode) {values : List α} {value : α}
    (member : value ∈ values) (opener closer : TokenKind) :
    kind value ∈ (enclosed opener closer (nodes kind values)).filterMap node? := by
  refine List.mem_filterMap.mpr ⟨.node (kind value), ?_, rfl⟩
  refine List.mem_cons_of_mem _ (List.mem_append_left _ ?_)
  exact List.mem_map_of_mem member

/-- The values of a list stand inside it. -/
theorem Value.inside_list {values : List Value} {value : Value} (member : value ∈ values)
    (span : Span) : SyntaxNode.Inside (.value value) (.value (.list values span)) :=
  .child .itself (Piece.mem_enclosed .value member _ _)

/-- The values of the fields of an object stand inside it. -/
theorem Value.inside_object {fields : List ObjectField} {field : ObjectField}
    (member : field ∈ fields) (span : Span) :
    SyntaxNode.Inside (.value field.value) (.value (.object fields span)) := by
  have inside : SyntaxNode.Inside (.objectField field) (.value (.object fields span)) :=
    .child .itself (Piece.mem_enclosed .objectField member _ _)
  refine .child inside ?_
  simp [SyntaxNode.children, Piece.ofNode, Piece.node?, Piece.name]

mutual

/-- The literal of a value says what the value is. -/
theorem Value.literal_says : ∀ value : Value, value.Numeric →
    Constant.Says value.literal value.constant
  | .string said _ _, _ => Constant.says_quoted said
  | .int digits span, numeric => Constant.says_number (numeric digits span (.inl .itself))
  | .float digits span, numeric => Constant.says_number (numeric digits span (.inr .itself))
  | .boolean yes _, _ => Constant.says_boolean yes
  | .null _, _ => Constant.says_none
  | .enum symbol _, _ => Constant.says_quoted symbol
  | .list values span, numeric => Constant.readsDisplay_list.says
    (Value.literals_say values (fun _ member => numeric.inside (Value.inside_list member span)))
  | .object fields span, numeric => Constant.readsDisplay_dictionary.says
    (ObjectField.literals_say fields
      (fun _ member => numeric.inside (Value.inside_object member span)))

/-- So do the literals of the values of a list. -/
theorem Value.literals_say : ∀ values : List Value, (∀ value ∈ values, value.Numeric) →
    List.Forall₂ Constant.Says (Value.literals values) (Value.constants values)
  | [], _ => .nil
  | value :: values, numeric =>
    .cons (Value.literal_says value (numeric value List.mem_cons_self))
      (Value.literals_say values
        (fun other member => numeric other (List.mem_cons_of_mem _ member)))

/-- So do the literals of the fields of an object. -/
theorem ObjectField.literals_say : ∀ fields : List ObjectField,
    (∀ field ∈ fields, field.value.Numeric) →
      List.Forall₂ Constant.SaysEntry (ObjectField.literals fields) (ObjectField.entries fields)
  | [], _ => .nil
  | field :: fields, numeric =>
    .cons (ObjectField.literal_says field (numeric field List.mem_cons_self))
      (ObjectField.literals_say fields
        (fun other member => numeric other (List.mem_cons_of_mem _ member)))

/-- So does the literal of one field. -/
theorem ObjectField.literal_says : ∀ field : ObjectField, field.value.Numeric →
    Constant.SaysEntry (ObjectField.literal field) (ObjectField.entry field)
  | .mk name value span, numeric => by
    have whole : ObjectField.literal (.mk name value span) =
        Text.quoted name ++ (": " ++ value.literal) := by
      simp [ObjectField.literal, Text.concat]
    rw [whole]
    exact .intro (Value.literal_says value numeric)

end

/-! ## Values of a text -/

/-- A lexeme that is a number is spelled like one. -/
theorem Lexeme.read_number {c : CodePoint} {rest : Text} {lexeme : Lexeme}
    (accepted : Lexeme.read c rest = .ok lexeme)
    (numeric : lexeme.kind = .int ∨ lexeme.kind = .float) :
    lexeme.value ∈ NumberExpression.number.matches' := by
  cases Lexeme.read_iff.mp accepted with
  | number begins found =>
    rw [(number_kind found).2]
    exact number_mem found
  | comment | block | string | name | spread => obtain kind | kind := numeric <;> cases kind
  | punctuator mark =>
    have marks : ∀ entry ∈ Lexeme.punctuators, entry.2 ≠ .int ∧ entry.2 ≠ .float := by decide
    obtain ⟨whole, pointed⟩ := marks _ (Lexeme.punctuator_mem mark)
    exact absurd numeric (by simp [whole, pointed])

/-- A node that is one word covers a token that reads so. -/
theorem Located.word {tokens : List Token} {node : SyntaxNode} {reading : Reading}
    (located : Located tokens node) (single : Piece.ofNode node = [.word reading]) :
    ∃ token ∈ tokens, token.reading = reading := by
  obtain ⟨fits, -, -, -⟩ := located
  rw [single] at fits
  cases fits with
  | @token token _ _ _ admits _ => exact ⟨token, List.mem_cons_self, admits⟩

/-- The numbers of a text are spelled like numbers in its syntax tree. -/
theorem parseDocument_numeric {text : Text} {definitions : List Definition}
    (parsed : parseDocument text = .ok definitions) {definition : Definition}
    (member : definition ∈ definitions) {value : Value}
    (inside : SyntaxNode.Inside (.value value) (.definition definition)) : value.Numeric := by
  obtain ⟨body, finish, scanned, -, -, covers⟩ := parseDocument_located parsed
  have spelled {number : Value} {kind : TokenKind} {digits : Text}
      (numeric : kind = .int ∨ kind = .float)
      (single : Piece.ofValue number = [.word (kind, digits)])
      (found : SyntaxNode.Inside (.value number) (.value value)) :
      digits ∈ NumberExpression.number.matches' := by
    obtain ⟨part, covered, located⟩ := covers definition member _ (found.trans inside)
    obtain ⟨token, listed, reads⟩ := located.word single
    obtain ⟨rfl, rfl⟩ := Prod.mk.inj reads
    have kept : token ∈ body ++ [finish] :=
      List.mem_append_left _ (List.mem_of_mem_filter (covered.subset listed))
    have given : token.kind ≠ .endOfInput := by
      obtain kind | kind := numeric <;> simp [kind]
    obtain ⟨front, c, rest, lexeme, -, read, rfl⟩ := scan_lexemes scanned kept given
    exact Lexeme.read_number read numeric
  rintro digits span (found | found)
  · exact spelled (.inl rfl) rfl found
  · exact spelled (.inr rfl) rfl found

/-- A constant of a parsed text survives being written into generated code: its literal is on one
line, and reading the literal gives the constant back, with the code points of each text, the
spelling of each number and the items of each list and object in order. -/
theorem Value.literal_readsBack {text : Text} {definitions : List Definition}
    (parsed : parseDocument text = .ok definitions) {definition : Definition}
    (member : definition ∈ definitions) {value : Value}
    (inside : SyntaxNode.Inside (.value value) (.definition definition)) :
    value.literal.OnOneLine ∧ Constant.ofLiteral value.literal = some value.constant := by
  have meaning := value.literal_says (parseDocument_numeric parsed member inside)
  have whole := meaning.reads [] .nil
  rw [List.append_nil] at whole
  exact ⟨meaning.line, by rw [Constant.ofLiteral, whole]⟩

/-- A default value with a list in an object, and in the list a text with a bracket, a comma and
both quotes. -/
def nestedText : Text := "input A \x7b b: B = \x7bc: [\"],' \\\"\", -1.5e3, D]\x7d \x7d"

/-- The default value. -/
def nestedValue : Value :=
  .object [.mk "c" (.list [.string "],' \"" ⟨22, 30, 1, 23⟩ false, .float "-1.5e3" ⟨32, 38, 1, 33⟩,
    .enum "D" ⟨40, 41, 1, 41⟩] ⟨21, 42, 1, 22⟩) ⟨18, 42, 1, 19⟩] ⟨17, 43, 1, 18⟩

/-- The field that has it. -/
def nestedField : InputValue :=
  ⟨"b", .named ⟨"B", ⟨13, 14, 1, 14⟩⟩, some nestedValue, [], none, ⟨10, 43, 1, 11⟩⟩

/-- The type that has the field. -/
def nestedType : Definition := .inputObject ⟨"A", [nestedField], [], none, ⟨0, 45, 1, 1⟩⟩

/-- Nothing in the text is read as structure. -/
theorem Value.literal_readsBack_nested :
    nestedValue.literal = "\x7b'c': ['],\\' \"', -1.5e3, 'D']\x7d" ∧
      nestedValue.literal.OnOneLine ∧
      Constant.ofLiteral nestedValue.literal =
        some (.dictionary [("c", .list [.text "],' \"", .number "-1.5e3", .text "D"])]) := by
  have scanned : tokenize nestedText = .ok
      [⟨.name, "input", 1, 1, 0, 5⟩, ⟨.name, "A", 1, 7, 6, 7⟩, ⟨.leftBrace, "\x7b", 1, 9, 8, 9⟩,
        ⟨.name, "b", 1, 11, 10, 11⟩, ⟨.colon, ":", 1, 12, 11, 12⟩, ⟨.name, "B", 1, 14, 13, 14⟩,
        ⟨.equals, "=", 1, 16, 15, 16⟩, ⟨.leftBrace, "\x7b", 1, 18, 17, 18⟩,
        ⟨.name, "c", 1, 19, 18, 19⟩, ⟨.colon, ":", 1, 20, 19, 20⟩,
        ⟨.leftBracket, "[", 1, 22, 21, 22⟩, ⟨.string, "],' \"", 1, 23, 22, 30⟩,
        ⟨.float, "-1.5e3", 1, 33, 32, 38⟩, ⟨.name, "D", 1, 41, 40, 41⟩,
        ⟨.rightBracket, "]", 1, 42, 41, 42⟩, ⟨.rightBrace, "\x7d", 1, 43, 42, 43⟩,
        ⟨.rightBrace, "\x7d", 1, 45, 44, 45⟩, ⟨.endOfInput, "", 1, 46, 45, 45⟩] := by cbv
  have parsed : parseDocument nestedText = .ok [nestedType] := by
    rw [parseDocument, scanned]
    with_unfolding_all rfl
  have field : SyntaxNode.Inside (.inputValue nestedField) (.definition nestedType) :=
    .child .itself List.mem_cons_self
  have inside : SyntaxNode.Inside (.value nestedValue) (.definition nestedType) :=
    .child field (List.mem_cons_of_mem _ List.mem_cons_self)
  refine ⟨by decide +kernel, ?_⟩
  exact Value.literal_readsBack parsed List.mem_cons_self inside

end SchemaForge

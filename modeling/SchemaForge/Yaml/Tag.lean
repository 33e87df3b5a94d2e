import SchemaForge.Text.Numeral

/-!
# Tags

A tag says what a node of a document means. A node with a tag of its own means
that; a plain scalar without one means what its form says: a truth value, a whole
or floating-point number, a date, nothing at all, or else its text. Whole numbers
may be binary, octal behind a leading zero, hexadecimal, or in base sixty with
colons; underscores inside numbers say nothing. A floating-point number needs a
point, and its exponent a sign.

Two forms are marks and no values: one stands for the keys of other mappings, the
other for a default value.
-/

namespace SchemaForge.Yaml

/-- The tags. -/
inductive Tag where
  | null
  | bool
  | int
  | float
  | binary
  | timestamp
  | text
  | sequence
  | mapping
  | set
  /-- A list of keys with their values, in an order that counts. -/
  | orderedPairs
  /-- A list of keys with their values. -/
  | pairs
  /-- The key that merges other mappings into its own. -/
  | merge
  /-- The key of a default value. -/
  | default
  /-- A full name without a meaning. -/
  | unknown (name : Text)
deriving DecidableEq, Inhabited

namespace Tag

/-- What the names of all tags with a meaning begin with. -/
def space : Text := "tag:yaml.org,2002:"

/-- The tags with a meaning by their names. -/
def names : List (Text × Tag) :=
  [("null", null), ("bool", bool), ("int", int), ("float", float), ("binary", binary),
    ("timestamp", timestamp), ("str", text), ("seq", sequence), ("map", mapping), ("set", set),
    ("omap", orderedPairs), ("pairs", pairs), ("merge", merge), ("value", default)]

/-- The tag of a full name. -/
def ofName (name : Text) : Tag :=
  let known :=
    (Text.after? name space).bind (fun rest =>
      (names.find? (fun row => decide (row.1 = rest))).map Prod.snd)
  known.getD (unknown name)

/-- The full name of a tag. -/
def name : Tag → Text
  | unknown name => name
  | tag => space ++ ((names.find? (fun row => decide (row.2 = tag))).map Prod.fst).getD []

/-- The words for truth values. -/
def boolForms : List Text :=
  ["yes", "Yes", "YES", "no", "No", "NO", "true", "True", "TRUE", "false", "False", "FALSE",
    "on", "On", "ON", "off", "Off", "OFF"]

/-- The words for nothing. -/
def nullForms : List Text := ["", "~", "null", "Null", "NULL"]

/-- The words for numbers without end, behind a sign. -/
def infinityForms : List Text := [".inf", ".Inf", ".INF"]

/-- The words for what is no number. -/
def undefinedForms : List Text := [".nan", ".NaN", ".NAN"]

/-- A digit or an underscore. -/
def isDigitOrUnderscore (c : CodePoint) : Bool := c.isDigit || c = '_'

/-- A digit and further digits and underscores. -/
def isWhole (text : Text) : Bool :=
  text.head?.any CodePoint.isDigit && text.all isDigitOrUnderscore

/-- One part of a number in base sixty behind its first: one or two digits below sixty. -/
def isSixtieth (part : Text) : Bool :=
  match part with
  | [digit] => digit.isDigit
  | [tens, digit] => tens.between '0' '5' && digit.isDigit
  | _ => false

/-- The form of an exponent: its mark, a sign and digits, or nothing. -/
def isExponent : Text → Bool
  | [] => true
  | mark :: rest =>
    (mark = 'e' || mark = 'E') &&
      (match rest with
        | [] => false
        | sign :: digits =>
          (sign = '+' || sign = '-') && !digits.isEmpty && digits.all CodePoint.isDigit)

/-- The text before and behind the first point. -/
def splitPoint? (text : Text) : Option (Text × Text) :=
  let isPoint (c : CodePoint) : Bool := c = '.'
  match text.dropWhile (fun c => !isPoint c) with
  | [] => none
  | _ :: rest => some (text.takeWhile (fun c => !isPoint c), rest)

/-- The form of a floating-point number. -/
def isFloat (text : Text) : Bool :=
  let unsigned := (Numeral.splitSign text).2
  let positional :=
    match splitPoint? unsigned with
    | none => false
    | some (whole, rest) =>
      let places := rest.takeWhile isDigitOrUnderscore
      let tail := rest.dropWhile isDigitOrUnderscore
      let inTens :=
        isExponent tail &&
          (isWhole whole || (whole.isEmpty && isWhole places && unsigned.length = text.length))
      let inSixties :=
        tail.isEmpty &&
          (match Text.splitOn (':' : Char) whole with
            | first :: part :: parts => isWhole first && (part :: parts).all isSixtieth
            | _ => false)
      inTens || inSixties
  positional || infinityForms.contains unsigned || undefinedForms.contains text

/-- Digits of a base and underscores, at least one of them. -/
def isInBase (base : Nat) (digits : Text) : Bool :=
  !digits.isEmpty && digits.all (fun c => Numeral.isDigitOf base c || c = '_')

/-- The form of a whole number. -/
def isInt (text : Text) : Bool :=
  match (Numeral.splitSign text).2 with
  | [] => false
  | c :: rest =>
    if c = '0' then
      match rest with
      | [] => true
      | mark :: digits =>
        (mark = 'b' && isInBase 2 digits) || (mark = 'x' && isInBase 16 digits) || isInBase 8 rest
    else
      match Text.splitOn (':' : Char) (c :: rest) with
      | [] => false
      | first :: parts => isWhole first && parts.all isSixtieth

/-- What follows a run of digits whose length lies between two bounds. -/
def afterDigits? (least most : Nat) (text : Text) : Option Text :=
  let run := (text.takeWhile CodePoint.isDigit).take most
  if least ≤ run.length then some (text.drop run.length) else none

/-- What follows one given code point. -/
def afterMark? (mark : Char) : Text → Option Text
  | [] => none
  | c :: rest => if c = mark then some rest else none

/-- The form of a date: four digits, two and two. -/
def isDate (text : Text) : Bool :=
  let rest := do
    let rest ← afterDigits? 4 4 text
    let rest ← afterDigits? 2 2 (← afterMark? '-' rest)
    afterDigits? 2 2 (← afterMark? '-' rest)
  rest == some []

/-- A blank or a tab. -/
def isBlankOrTab (c : CodePoint) : Bool := c = ' ' || c = .tab

/-- The form of what may follow a time: an offset, or nothing. -/
def isOffset (text : Text) : Bool :=
  let minutes (rest : Text) : Bool :=
    rest.isEmpty || ((afterMark? ':' rest).bind (afterDigits? 2 2)) == some []
  match text.dropWhile isBlankOrTab with
  | [] => text.isEmpty
  | mark :: rest =>
    if mark = 'Z' then rest.isEmpty
    else (mark = '+' || mark = '-') && ((afterDigits? 1 2 rest).map minutes).getD false

/-- What follows the mark between a date and a time: a letter, or blanks and tabs. -/
def afterGap? : Text → Option Text
  | [] => none
  | c :: rest =>
    if c = 'T' || c = 't' then some rest
    else if isBlankOrTab c then some (rest.dropWhile isBlankOrTab)
    else none

/-- The form of a time behind a date. -/
def isTime (text : Text) : Bool :=
  let rest := do
    let rest ← afterDigits? 1 2 text
    let rest ← afterDigits? 2 2 (← afterMark? ':' rest)
    afterDigits? 2 2 (← afterMark? ':' rest)
  match rest with
  | none => false
  | some rest =>
    match afterMark? '.' rest with
    | none => isOffset rest
    | some fraction => isOffset (fraction.dropWhile CodePoint.isDigit)

/-- What follows a date whose month and day may have one digit. -/
def afterLooseDate? (text : Text) : Option Text := do
  let rest ← afterDigits? 4 4 text
  let rest ← afterDigits? 1 2 (← afterMark? '-' rest)
  afterDigits? 1 2 (← afterMark? '-' rest)

/-- The form of a date with a time. -/
def isMoment (text : Text) : Bool :=
  (((afterLooseDate? text).bind afterGap?).map isTime).getD false

/-- A text without the one line feed that may end a form. -/
def withoutLastBreak (text : Text) : Text :=
  if 1 < text.length && text.getLast? = some .lineFeed then text.dropLast else text

/-- The code points that mark other things at the start of a node. As a scalar of their
own they have no meaning. -/
def markForms : List Text := ["!", "&", "*"]

/-- The tag of a plain scalar by its form. -/
def ofPlain (text : Text) : Tag :=
  let form := withoutLastBreak text
  if boolForms.contains form then bool
  else if isFloat form then float
  else if isInt form then int
  else if form = ("<<" : Text) then merge
  else if nullForms.contains form then null
  else if isDate form || isMoment form then timestamp
  else if form = ("=" : Text) then default
  else if markForms.contains form then ofName (space ++ "yaml")
  else Tag.text

end Tag

end SchemaForge.Yaml

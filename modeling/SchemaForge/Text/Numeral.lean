import SchemaForge.Text.LetterCase
import SchemaForge.Text.Lines
import SchemaForge.Text.Quoted

/-!
# Numerals

Texts that spell numbers. Digits of every script count, white space around a
numeral says nothing, and a sign may stand in front. A whole number in base two,
eight or sixteen may begin with the mark of its base. A whole number in base ten
has a greatest length, both when it is read and when it is written; the other
bases have none, because their digits are bits.

A decimal is read as the nearest floating-point number.
-/

namespace SchemaForge

/-- The zeros of the scripts that have decimal digits. The other nine follow each. -/
def CodePoint.decimalZeros : List Nat :=
  [0x30, 0x660, 0x6F0, 0x7C0, 0x966, 0x9E6, 0xA66, 0xAE6, 0xB66, 0xBE6, 0xC66, 0xCE6, 0xD66,
    0xDE6, 0xE50, 0xED0, 0xF20, 0x1040, 0x1090, 0x17E0, 0x1810, 0x1946, 0x19D0, 0x1A80, 0x1A90,
    0x1B50, 0x1BB0, 0x1C40, 0x1C50, 0xA620, 0xA8D0, 0xA900, 0xA9D0, 0xA9F0, 0xAA50, 0xABF0,
    0xFF10, 0x104A0, 0x10D30, 0x11066, 0x110F0, 0x11136, 0x111D0, 0x112F0, 0x11450, 0x114D0,
    0x11650, 0x116C0, 0x11730, 0x118E0, 0x11950, 0x11C50, 0x11D50, 0x11DA0, 0x16A60, 0x16AC0,
    0x16B50, 0x1D7CE, 0x1D7D8, 0x1D7E2, 0x1D7EC, 0x1D7F6, 0x1E140, 0x1E2F0, 0x1E950, 0x1FBF0]

/-- The value of a decimal digit of any script. -/
def CodePoint.decimal? (c : CodePoint) : Option Nat :=
  (decimalZeros.find? (fun first => first ≤ c.val && c.val < first + 10)).map (c.val - ·)

/-- Why a text spells no number, or a number has no text. -/
inductive NumeralFault where
  /-- It is no whole number in the base. -/
  | notWhole (base : Nat) (text : Text)
  /-- It is no decimal. -/
  | notDecimal (text : Text)
  /-- It has more digits than are read. -/
  | tooManyDigits (count : Nat)
  /-- It has more digits than are written. -/
  | tooLong
deriving DecidableEq

namespace Numeral

/-- The greatest number of digits of a whole number in base ten. -/
def maxDigits : Nat := 4300

end Numeral

/-- The wording of a numeral fault. A text is shown by the first part of its quoted
form only. -/
def NumeralFault.message : NumeralFault → Text
  | notWhole base text =>
    Text.concat ["invalid literal for int() with base ", Text.ofNat base, ": ",
      (Text.quoted text).take 200]
  | notDecimal text => Text.concat ["could not convert string to float: ", Text.quoted text]
  | tooManyDigits count =>
    Text.concat ["Exceeds the limit (", Text.ofNat Numeral.maxDigits,
      " digits) for integer string conversion: value has ", Text.ofNat count,
      " digits; use sys.set_int_max_str_digits() to increase the limit"]
  | tooLong =>
    Text.concat ["Exceeds the limit (", Text.ofNat Numeral.maxDigits,
      " digits) for integer string conversion; ",
      "use sys.set_int_max_str_digits() to increase the limit"]

namespace Numeral

/-- The white space of the first 128 code points that may stand around a numeral. -/
def isCommonSpace (c : CodePoint) : Bool := c = ' ' || (0x09 ≤ c.val && c.val ≤ 0x0D)

/-- A code point beyond the first 128 as the digit or blank that it counts as. -/
def commonUnit (c : CodePoint) : CodePoint :=
  if c.val < 0x80 then c
  else if c.isSpace then CodePoint.ofChar ' '
  else
    match c.decimal? with
    | some value => CodePoint.ofNat ('0'.toNat + value)
    | none => c

/-- A numeral without its sign, and whether the sign is a minus. -/
def splitSign : Text → Bool × Text
  | [] => (false, [])
  | c :: rest =>
    if c = '-' then (true, rest) else if c = '+' then (false, rest) else (false, c :: rest)

/-- A whole number with its sign. -/
def signed (negative : Bool) (value : Nat) : Int := if negative then - Int.ofNat value else value

/-- A digit of a base up to sixteen. -/
def isDigitOf (base : Nat) (c : CodePoint) : Bool := c.isHexDigit && c.hexValue < base

/-- The letter that marks a base behind a zero. -/
def markOf (base : Nat) : Option Char :=
  if base = 2 then some 'b' else if base = 8 then some 'o' else if base = 16 then some 'x' else none

/-- A numeral without the mark of its base. -/
def withoutMark (base : Nat) (text : Text) : Text :=
  match markOf base, text with
  | some mark, lead :: letter :: rest =>
    if lead = '0' && (letter = mark || letter = mark.toUpper) then rest else text
  | _, _ => text

/-- The whole number that a text spells in a base. The length is judged before what
follows the digits. -/
def readWhole (base : Nat) (text : Text) : Except NumeralFault Int :=
  let (negative, unsigned) := splitSign (Text.trimStart isCommonSpace (text.map commonUnit))
  let body := withoutMark base unsigned
  let digits := body.takeWhile (isDigitOf base)
  if base = 10 && maxDigits < digits.length then .error (.tooManyDigits digits.length)
  else if digits.isEmpty || !(body.dropWhile (isDigitOf base)).all isCommonSpace then
    .error (.notWhole base text)
  else .ok (signed negative (Text.toNat base digits))

/-- The floating-point number nearest to digits times a power of ten. Far outside the
range of floating-point numbers the power is not computed. -/
def scaled (digits : Nat) (power : Int) : Float :=
  let magnitude := Int.ofNat (Nat.toDigits 10 digits).length + power
  if digits = 0 || magnitude < -400 then 0.0
  else if 400 < magnitude then 1.0 / 0.0
  else Float.ofScientific digits (power < 0) power.natAbs

/-- The exponent that a text spells: its mark, perhaps a sign, and digits; or nothing. -/
def exponent? : Text → Option Int
  | [] => some 0
  | mark :: rest =>
    let (negative, digits) := splitSign rest
    if (mark = 'e' || mark = 'E') && !digits.isEmpty && digits.all CodePoint.isDigit then
      some (signed negative (Text.toNat 10 digits))
    else none

/-- The floating-point number that a text without sign spells by digits, a point and an
exponent. -/
def unsignedDecimal? (text : Text) : Option Float :=
  let whole := text.takeWhile CodePoint.isDigit
  let behind := text.dropWhile CodePoint.isDigit
  let (fraction, rest) :=
    match behind with
    | [] => ([], [])
    | c :: tail =>
      if c = '.' then (tail.takeWhile CodePoint.isDigit, tail.dropWhile CodePoint.isDigit)
      else ([], c :: tail)
  if whole.isEmpty && fraction.isEmpty then none
  else
    (exponent? rest).map (fun power =>
      scaled (Text.toNat 10 (whole ++ fraction)) (power - Int.ofNat fraction.length))

/-- The words for a number without end. -/
def infinities : List Text := ["inf", "infinity"]

/-- The floating-point number that a text spells. -/
def readDecimal (text : Text) : Except NumeralFault Float :=
  let (negative, unsigned) := splitSign (Text.trim isCommonSpace (text.map commonUnit))
  let word := unsigned.flatMap CodePoint.toLower
  let value? : Option Float :=
    if infinities.contains word then some (1.0 / 0.0)
    else if word = ("nan" : Text) then some (0.0 / 0.0)
    else unsignedDecimal? unsigned
  match value? with
  | some value => .ok (if negative then -value else value)
  | none => .error (.notDecimal text)

/-- A whole number as text. -/
def writeWhole (value : Int) : Except NumeralFault Text :=
  let text := Text.ofInt value
  if maxDigits < (Text.ofNat value.natAbs).length then .error .tooLong else .ok text

end Numeral

end SchemaForge

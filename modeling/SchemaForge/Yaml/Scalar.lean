import SchemaForge.Data.Basic
import SchemaForge.Text.Base64
import SchemaForge.Yaml.Flaw
import SchemaForge.Yaml.Tag

/-!
# Scalars

The value of a scalar under its tag. The form of the text has not been looked at
when the tag was given and not found by that form, so every reader judges the
whole text itself: a word that is no truth value, a numeral without digits or the
thirteenth month of a year are faults, each with a cause of its own. Bytes are the
exception: a text that spells none is a flaw of the document.
-/

namespace SchemaForge.Yaml

/-- Why a text has no data. -/
inductive Fault where
  /-- It is no document, or a document without meaning. -/
  | malformed (flaw : Flaw)
  /-- There is no such year. -/
  | year (number : Nat)
  /-- There is no such month. -/
  | month
  /-- The month has no such day. -/
  | day
  /-- There is no such hour. -/
  | hour
  /-- There is no such minute. -/
  | minute
  /-- There is no such second. -/
  | second
  /-- The offset from universal time is a day or more. -/
  | offset (minutes : Int)
  /-- A text spells no number. -/
  | numeral (fault : NumeralFault)
  /-- A number has no text. -/
  | emptyNumeral
  /-- A number in base sixty has too many parts. -/
  | tooManyParts
  /-- A word is no truth value. -/
  | unknownWord (word : Text)
  /-- A text is no date. -/
  | notDate
  /-- A mapping stands where the text of a date should. -/
  | dateOfMapping
  /-- An escape by number names no code point. -/
  | noCodePoint
  /-- An escape by number is too large even to be looked up. -/
  | hugeCodePoint
  /-- The default value of a mapping is the mapping itself. -/
  | endless
deriving DecidableEq

/-- The wording of a fault. A flaw has none without the text it is in. -/
def Fault.message : Fault → Text
  | malformed _ => []
  | year number => Text.concat ["year ", Text.ofNat number, " is out of range"]
  | month => "month must be in 1..12"
  | day => "day is out of range for month"
  | hour => "hour must be in 0..23"
  | minute => "minute must be in 0..59"
  | second => "second must be in 0..59"
  | offset minutes =>
    Text.concat ["offset must be a timedelta strictly between -timedelta(hours=24) and ",
      "timedelta(hours=24), not ", Data.writtenDuration minutes, "."]
  | numeral fault => fault.message
  | emptyNumeral => "string index out of range"
  | tooManyParts => "int too large to convert to float"
  | unknownWord word => Text.quoted word
  | notDate => "'NoneType' object has no attribute 'groupdict'"
  | dateOfMapping => "expected string or bytes-like object, got 'list'"
  | noCodePoint => "chr() arg not in range(0x110000)"
  | hugeCodePoint => "Python int too large to convert to C int"
  | endless => "maximum recursion depth exceeded"

namespace Scalar

/-- The words for true, in small letters. -/
def trueWords : List Text := ["yes", "true", "on"]

/-- The words for false, in small letters. -/
def falseWords : List Text := ["no", "false", "off"]

/-- The truth value of a word, in any case of letters. -/
def readBool (text : Text) : Except Fault Data :=
  let word := Text.lower text
  if trueWords.contains word then .ok (.bool true)
  else if falseWords.contains word then .ok (.bool false)
  else .error (.unknownWord word)

/-- A number without underscores and without its sign, and whether that is a minus. The
sign must not be all there is to look at. -/
def unsignedNumber (text : Text) : Except Fault (Bool × Text) :=
  let isUnderscore (c : CodePoint) : Bool := c = '_'
  match text.filter (fun c => !isUnderscore c) with
  | [] => .error .emptyNumeral
  | digits => .ok (Numeral.splitSign digits)

/-- A whole number in a base. -/
def whole (base : Nat) (text : Text) : Except Fault Int :=
  (Numeral.readWhole base text).mapError Fault.numeral

/-- The value of parts in base sixty. -/
def sixtieths (parts : List Int) : Int := parts.foldl (fun value part => 60 * value + part) 0

/-- The whole number that a text without sign spells. -/
def unsignedInt (text : Text) : Except Fault Int :=
  match text with
  | [] => .error .emptyNumeral
  | c :: _ =>
    if text = ("0" : Text) then .ok 0
    else
      match Text.after? text "0b", Text.after? text "0x" with
      | some digits, _ => whole 2 digits
      | none, some digits => whole 16 digits
      | none, none =>
        if c = '0' then whole 8 text
        else if Text.contains (CodePoint.ofChar ':') text then do
          let parts ← (Text.splitOn (':' : Char) text).mapM (whole 10)
          pure (sixtieths parts)
        else whole 10 text

/-- The whole number that a text spells. -/
def readInt (text : Text) : Except Fault Data := do
  let (negative, unsigned) ← unsignedNumber text
  let value ← unsignedInt unsigned
  pure (.int (if negative then - value else value))

/-- A decimal. -/
def decimal (text : Text) : Except Fault Float :=
  (Numeral.readDecimal text).mapError Fault.numeral

/-- The greatest number of parts in base sixty whose units are floating-point numbers. -/
def maxParts : Nat := 174

/-- The sum of parts in base sixty, the last one first. -/
def sumSixtieths (parts : List Float) : Float :=
  (parts.foldl (fun (sum, place) part =>
    (sum + part * Numeral.scaled (Nat.pow 60 place) 0, place + 1)) ((0.0 : Float), 0)).1

/-- The floating-point number that a text without sign spells, in small letters. -/
def unsignedFloat (text : Text) : Except Fault Float :=
  if text = (".inf" : Text) then .ok (1.0 / 0.0)
  else if text = (".nan" : Text) then .ok (0.0 / 0.0)
  else if Text.contains (CodePoint.ofChar ':') text then do
    let parts ← (Text.splitOn (':' : Char) text).mapM decimal
    if maxParts < parts.length then .error .tooManyParts else pure (sumSixtieths parts.reverse)
  else decimal text

/-- The floating-point number that a text spells, in any case of letters. What is no number
has the given origin, except for the one that has a notation of its own. -/
def readFloat (origin : Nat) (text : Text) : Except Fault Data := do
  let (negative, unsigned) ← unsignedNumber (Text.lower text)
  let value ← unsignedFloat unsigned
  if value.isNaN && unsigned ≠ (".nan" : Text) then pure (.undefined origin)
  else pure (.float (if negative then -value else value))

/-- The number that the digits at the start of a text spell, and what follows them. -/
def digitRun (most : Nat) (text : Text) : Nat × Text :=
  let run := (text.takeWhile CodePoint.isDigit).take most
  (Text.toNat 10 run, text.drop run.length)

/-- The number behind one mark at the start of a text, and what follows it. -/
def digitRunBehindMark (text : Text) : Nat × Text := digitRun 2 (text.drop 1)

/-- The millionths of a second that the digits behind a point spell. -/
def microseconds (digits : Text) : Nat :=
  let kept := digits.take 6
  Text.toNat 10 kept * Nat.pow 10 (6 - kept.length)

/-- The offset that a text of that form spells, in minutes. -/
def offsetOf (text : Text) : Option Int :=
  match text.dropWhile Tag.isBlankOrTab with
  | [] => none
  | mark :: rest =>
    if mark = 'Z' then some 0
    else
      let (hours, rest) := digitRun 2 rest
      let (minutes, _) := digitRunBehindMark rest
      some (Numeral.signed (mark = '-') (hours * 60 + minutes))

/-- The date that a text of that form begins with, and what follows it. -/
def dateOf (text : Text) : Date × Text :=
  let (year, rest) := digitRun 4 text
  let (month, rest) := digitRunBehindMark rest
  let (day, rest) := digitRunBehindMark rest
  (⟨year, month, day⟩, rest)

/-- The time of day that a text of that form spells. -/
def clockOf (text : Text) : Clock :=
  let (hour, rest) := digitRun 2 text
  let (minute, rest) := digitRunBehindMark rest
  let (second, rest) := digitRunBehindMark rest
  match Tag.afterMark? '.' rest with
  | none => ⟨hour, minute, second, 0, offsetOf rest⟩
  | some fraction =>
    ⟨hour, minute, second, microseconds (fraction.takeWhile CodePoint.isDigit),
      offsetOf (fraction.dropWhile CodePoint.isDigit)⟩

/-- The number of days of a month. -/
def daysOf (year month : Nat) : Nat :=
  let isLeap := year % 4 = 0 && (year % 100 ≠ 0 || year % 400 = 0)
  if month = 2 then (if isLeap then 29 else 28)
  else if [4, 6, 9, 11].contains month then 30
  else 31

/-- What is wrong with a date, if anything is. -/
def dateFault? (date : Date) : Option Fault :=
  if date.year = 0 then some (.year date.year)
  else if date.month = 0 || 12 < date.month then some .month
  else if date.day = 0 || daysOf date.year date.month < date.day then some .day
  else none

/-- What is wrong with the time of a day, if anything is. -/
def clockFault? (clock : Clock) : Option Fault :=
  if 23 < clock.hour then some .hour
  else if 59 < clock.minute then some .minute
  else if 59 < clock.second then some .second
  else none

/-- What is wrong with an offset, if anything is. -/
def offsetFault? (offset : Option Int) : Option Fault :=
  match offset with
  | none => none
  | some minutes => if minutes.natAbs < 24 * 60 then none else some (.offset minutes)

/-- The date, with or without a time, that a text spells. Month and day may have one
digit also without a time. The offset is looked at first. -/
def readMoment (text : Text) : Except Fault Data :=
  let form := Tag.withoutLastBreak text
  let (date, rest) := dateOf form
  if Tag.afterLooseDate? form = some [] then
    match dateFault? date with
    | some fault => .error fault
    | none => .ok (.date date)
  else if Tag.isMoment form then
    let clock := clockOf ((Tag.afterGap? rest).getD [])
    match offsetFault? clock.offset <|> dateFault? date <|> clockFault? clock with
    | some fault => .error fault
    | none => .ok (.moment date clock)
  else .error .notDate

/-- The bytes that the text of a node at a place spells. -/
def readBytes (place : Place) (text : Text) : Except Fault Data :=
  match Base64.decode text with
  | .ok bytes => .ok (.bytes bytes)
  | .error fault => .error (.malformed (.problem none fault.message place))

end Scalar

end SchemaForge.Yaml

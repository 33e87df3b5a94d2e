import SchemaForge.Text.Numeral
import SchemaForge.Text.ShortestDecimal

/-!
# Data

The values that a configuration file can hold before anything is known about
their meaning, and how they are written in messages. A list or mapping that holds
itself is cut off at the place where it would start again.
-/

namespace SchemaForge

/-- A calendar date. -/
structure Date where
  /-- The year. -/
  year : Nat
  /-- The month, counted from one. -/
  month : Nat
  /-- The day of the month. -/
  day : Nat
deriving DecidableEq, Inhabited

/-- A time of a day, to the microsecond, with an offset in minutes where one is given. -/
structure Clock where
  /-- The hour. -/
  hour : Nat
  /-- The minute. -/
  minute : Nat
  /-- The second. -/
  second : Nat
  /-- The millionths of a second. -/
  microsecond : Nat
  /-- The minutes ahead of universal time. -/
  offset : Option Int
deriving DecidableEq, Inhabited

/-- A value of unknown meaning. -/
inductive Data where
  | null
  | bool (value : Bool)
  | int (value : Int)
  | float (value : Float)
  /-- A floating-point value that is no number and is the same key only as those of its
  origin. -/
  | undefined (origin : Nat)
  | text (value : Text)
  | bytes (value : List UInt8)
  | date (value : Date)
  | moment (date : Date) (clock : Clock)
  | list (items : List Data)
  | mapping (pairs : List (Data × Data))
  /-- Distinct keys without values. -/
  | set (members : List Data)
  /-- A key with its value that stands in a list. -/
  | pair (key value : Data)
  /-- The list that this value stands in. -/
  | sameList
  /-- The mapping that this value stands in. -/
  | sameMapping

instance : Inhabited Data := ⟨.null⟩

namespace Data

/-- The fields of a moment as they are listed: a zero microsecond is left out, and then
a zero second too. -/
def momentFields (date : Date) (clock : Clock) : List Nat :=
  let upToMinute := [date.year, date.month, date.day, clock.hour, clock.minute]
  if clock.microsecond ≠ 0 then upToMinute ++ [clock.second, clock.microsecond]
  else if clock.second ≠ 0 then upToMinute ++ [clock.second]
  else upToMinute

/-- A duration other than zero, as days and seconds of a day. -/
def writtenDuration (minutes : Int) : Text :=
  let seconds := minutes * 60
  let days := seconds / 86400
  let rest := seconds % 86400
  let days : List Text := if days = 0 then [] else ["days=" ++ Text.ofInt days]
  let rest : List Text := if rest = 0 then [] else ["seconds=" ++ Text.ofInt rest]
  Text.concat ["datetime.timedelta(", Text.join ", " (days ++ rest), ")"]

/-- An offset from universal time. -/
def writtenOffset (minutes : Int) : Text :=
  if minutes = 0 then "datetime.timezone.utc"
  else Text.concat ["datetime.timezone(", writtenDuration minutes, ")"]

/-- A byte between two quotes of the given kind. -/
def writtenByte (mark : CodePoint) (byte : UInt8) : Text :=
  let c := CodePoint.ofNat byte.toNat
  if c = mark || c = .backslash then [.backslash, c]
  else if c = .lineFeed then "\\n"
  else if c = .carriageReturn then "\\r"
  else if c = .tab then "\\t"
  else if 0x20 ≤ c.val && c.val < 0x7F then [c]
  else "\\x" ++ Text.padded 16 2 c.val

/-- Bytes as a developer writes them, in quotes chosen as for a text. -/
def writtenBytes (bytes : List UInt8) : Text :=
  let mark := Text.quoteMark (bytes.map (fun byte => CodePoint.ofNat byte.toNat))
  Text.concat ["b", [mark], bytes.flatMap (writtenByte mark), [mark]]

/-- A date as a developer writes it. -/
def writtenDate (date : Date) : Text :=
  Text.concat ["datetime.date(",
    Text.join ", " ([date.year, date.month, date.day].map Text.ofNat), ")"]

/-- A moment as a developer writes it. -/
def writtenMoment (date : Date) (clock : Clock) : Text :=
  let fields := (momentFields date clock).map Text.ofNat
  let zone : List Text :=
    match clock.offset with
    | none => []
    | some minutes => ["tzinfo=" ++ writtenOffset minutes]
  Text.concat ["datetime.datetime(", Text.join ", " (fields ++ zone), ")"]

/-- Written members between braces. -/
def braced (members : List Text) : Text :=
  Text.concat ["\x7b", Text.join ", " members, "\x7d"]

mutual

/-- A value as a developer writes it. A whole number with too many digits cannot be
written. -/
def written : Data → Except NumeralFault Text
  | null => .ok "None"
  | bool value => .ok (if value then "True" else "False")
  | int value => Numeral.writeWhole value
  | float value => .ok (ShortestDecimal.render value)
  | undefined _ => .ok "nan"
  | text value => .ok (Text.quoted value)
  | bytes value => .ok (writtenBytes value)
  | date value => .ok (writtenDate value)
  | moment day clock => .ok (writtenMoment day clock)
  | list items => do
    let items ← writtenAll items
    pure (Text.concat ["[", Text.join ", " items, "]"])
  | mapping pairs => do
    let pairs ← writtenPairs pairs
    pure (braced pairs)
  | set [] => .ok "set()"
  | set members => do
    let members ← writtenAll members
    pure (braced members)
  | pair key value => do
    let key ← key.written
    let value ← value.written
    pure (Text.concat ["(", key, ", ", value, ")"])
  | sameList => .ok "[...]"
  | sameMapping => .ok (braced ["..."])

/-- The values of a list as a developer writes them. -/
def writtenAll : List Data → Except NumeralFault (List Text)
  | [] => .ok []
  | item :: items => do
    let first ← item.written
    let others ← writtenAll items
    pure (first :: others)

/-- The pairs of a mapping as a developer writes them. -/
def writtenPairs : List (Data × Data) → Except NumeralFault (List Text)
  | [] => .ok []
  | (key, value) :: pairs => do
    let key ← key.written
    let value ← value.written
    let others ← writtenPairs pairs
    pure (Text.concat [key, ": ", value] :: others)

end

/-- An offset as hours and minutes with a sign. -/
def plainOffset (minutes : Int) : Text :=
  let sign : Text := if minutes < 0 then "-" else "+"
  Text.concat [sign, Text.padded 10 2 (minutes.natAbs / 60), ":",
    Text.padded 10 2 (minutes.natAbs % 60)]

/-- A date in the common order of its parts. -/
def plainDate (date : Date) : Text :=
  Text.concat [Text.padded 10 4 date.year, "-", Text.padded 10 2 date.month, "-",
    Text.padded 10 2 date.day]

/-- A moment in the common order of its parts. -/
def plainMoment (date : Date) (clock : Clock) : Text :=
  let fraction : Text :=
    if clock.microsecond = 0 then []
    else CodePoint.ofChar '.' :: Text.padded 10 6 clock.microsecond
  Text.concat [plainDate date, " ", Text.padded 10 2 clock.hour, ":",
    Text.padded 10 2 clock.minute, ":", Text.padded 10 2 clock.second, fraction,
    (clock.offset.map plainOffset).getD []]

/-- A value as it is shown inside a message. Only texts and dates differ from how a
developer writes them. -/
def plain : Data → Except NumeralFault Text
  | text value => .ok value
  | date value => .ok (plainDate value)
  | moment day clock => .ok (plainMoment day clock)
  | other => other.written

end Data

end SchemaForge

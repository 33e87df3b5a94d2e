import SchemaForge.Data.Basic

/-!
# Keys

Values as keys of mappings: when two of them are the same key, and which of two
comes first. Numbers of all kinds and truth values are compared by their exact
value, and moments with an offset by the instant they name. Values of kinds that
have nothing in common are different keys without an order. What is no number is the
same key as what has the same origin, and nothing else.

A mapping keeps its keys in the order they first appeared, and a key that appears
again takes the later value.
-/

namespace SchemaForge

/-- Why two keys have no order. -/
inductive OrderFault where
  /-- They are of kinds without a common order. -/
  | kinds (left right : Text)
  /-- One is a date and one a moment. -/
  | dateAndMoment
  /-- One moment has an offset and one has none. -/
  | offsets
deriving DecidableEq

/-- The wording of an order fault. -/
def OrderFault.message : OrderFault → Text
  | kinds left right =>
    Text.concat ["'<' not supported between instances of ", Text.quoted left, " and ",
      Text.quoted right]
  | dateAndMoment => "can't compare datetime.datetime to datetime.date"
  | offsets => "can't compare offset-naive and offset-aware datetimes"

/-- The exact value of a number. -/
inductive ExactNumber where
  /-- A significand times a power of two. -/
  | finite (significand exponent : Int)
  /-- Above or below every finite number. -/
  | infinite (negative : Bool)
  /-- No number at all. -/
  | undefined
deriving DecidableEq

namespace ExactNumber

/-- The exact value of a floating-point number. -/
def ofFloat (value : Float) : ExactNumber :=
  let bits := value.toBits
  let negative := bits >>> 63 == 1
  if (bits >>> 52) &&& 0x7FF == 0x7FF then
    if bits &&& 0xFFFFFFFFFFFFF == 0 then infinite negative else undefined
  else
    let number := ShortestDecimal.Binary.ofBits bits
    finite (Numeral.signed negative number.significand) number.exponent

/-- The order of two numbers. What is no number has no place and counts as equal. -/
def order : ExactNumber → ExactNumber → Ordering
  | finite left power, finite right otherPower =>
    let least := min power otherPower
    compare (left * Int.pow 2 (power - least).toNat)
      (right * Int.pow 2 (otherPower - least).toNat)
  | infinite left, infinite right => compare right left
  | infinite negative, finite .. => if negative then .lt else .gt
  | finite .., infinite negative => if negative then .gt else .lt
  | undefined, _ | _, undefined => .eq

/-- Whether two numbers are the same. -/
def same (left right : ExactNumber) : Bool :=
  (left == undefined) == (right == undefined) && order left right == .eq

end ExactNumber

/-- The number of days from the first day of the first year to a date. -/
def Date.dayNumber (date : Date) : Int :=
  let before := Int.ofNat date.year - 1
  let isLeap := date.year % 4 = 0 && (date.year % 100 ≠ 0 || date.year % 400 = 0)
  let lengths := [31, if isLeap then 29 else 28, 31, 30, 31, 30, 31, 31, 30, 31, 30, 31]
  before * 365 + before / 4 - before / 100 + before / 400 +
    Int.ofNat ((lengths.take (date.month - 1)).foldl (· + ·) 0) + Int.ofNat date.day - 1

/-- The microseconds from the start of the first year to a moment, in universal time if
the moment has an offset. -/
def Clock.instant (date : Date) (clock : Clock) : Int :=
  let minutes :=
    (date.dayNumber * 24 + Int.ofNat clock.hour) * 60 + Int.ofNat clock.minute -
      clock.offset.getD 0
  (minutes * 60 + Int.ofNat clock.second) * 1000000 + Int.ofNat clock.microsecond

namespace Data

/-- The name of a value's kind in messages about order. -/
def kindName : Data → Text
  | null => "NoneType"
  | bool _ => "bool"
  | int _ => "int"
  | float _ | undefined _ => "float"
  | text _ => "str"
  | bytes _ => "bytes"
  | date _ => "datetime.date"
  | moment .. => "datetime.datetime"
  | list _ | sameList => "list"
  | mapping _ | sameMapping => "dict"
  | set _ => "set"
  | pair .. => "tuple"

/-- A number's value, if the value is a number. -/
def number? : Data → Option ExactNumber
  | bool value => some (.finite (if value then 1 else 0) 0)
  | int value => some (.finite value 0)
  | float value => some (ExactNumber.ofFloat value)
  | undefined _ => some .undefined
  | _ => none

/-- Whether two values are the same key of a mapping. -/
def sameKey : Data → Data → Bool
  | null, null => true
  | text left, text right => left == right
  | bytes left, bytes right => left == right
  | date left, date right => left == right
  | moment day clock, moment otherDay otherClock =>
    clock.offset.isSome == otherClock.offset.isSome &&
      clock.instant day == otherClock.instant otherDay
  | undefined left, undefined right => left == right
  | undefined _, _ | _, undefined _ => false
  | left, right =>
    match left.number?, right.number? with
    | some left, some right => left.same right
    | _, _ => false

/-- The order of two rows of numbers by their first difference. -/
def orderRows : List Nat → List Nat → Ordering
  | [], [] => .eq
  | [], _ :: _ => .lt
  | _ :: _, [] => .gt
  | left :: lefts, right :: rights => (compare left right).then (orderRows lefts rights)

/-- The order of two keys, if they have one. -/
def orderKeys : Data → Data → Except OrderFault Ordering
  | text left, text right =>
    .ok (orderRows (left.map CodePoint.val) (right.map CodePoint.val))
  | bytes left, bytes right => .ok (orderRows (left.map UInt8.toNat) (right.map UInt8.toNat))
  | date left, date right => .ok (compare left.dayNumber right.dayNumber)
  | moment day clock, moment otherDay otherClock =>
    if clock.offset.isSome == otherClock.offset.isSome then
      .ok (compare (clock.instant day) (otherClock.instant otherDay))
    else .error .offsets
  | date _, moment .. | moment .., date _ => .error .dateAndMoment
  | left, right =>
    match left.number?, right.number? with
    | some left, some right => .ok (left.order right)
    | _, _ => .error (.kinds left.kindName right.kindName)

/-! ## Sorting

Keys without an order are noticed when they are compared, so it counts which keys are: those of
the run that stands in front, each with the one before it, and every further key with the keys
that halve the ones before it. This is how fewer than sixty-four keys are compared; of more, the
parts are, and what has an order throughout comes out the same.
-/

/-- Whether a key comes before another one. -/
def comesBefore (left right : Data) : Except OrderFault Bool :=
  (orderKeys left right).map (· == .lt)

/-- How a run goes on behind its last key, and what is behind the run. In a descending run each
key comes before the last one, in any other none does. -/
def runBehind (descending : Bool) (last : Data) :
    List Data → Except OrderFault (List Data × List Data)
  | [] => .ok ([], [])
  | key :: others => do
    if (← comesBefore key last) == descending then
      let (run, rest) ← runBehind descending key others
      pure (key :: run, rest)
    else pure ([], key :: others)

/-- The run at the start of some keys, in ascending order, and what is behind it. -/
def leadingRun : List Data → Except OrderFault (List Data × List Data)
  | first :: second :: others => do
    let descending ← comesBefore second first
    let (run, rest) ← runBehind descending second others
    let run := first :: second :: run
    pure (if descending then run.reverse else run, rest)
  | keys => .ok (keys, [])

/-- The place of a key among sorted ones, behind those that it does not come before. The place
lies between two bounds, and the key halfway decides which half is looked at next. -/
def placeAmong (sorted : List Data) (key : Data) (low high : Nat) : Except OrderFault Nat :=
  if _ : low < high then
    let middle := low + (high - low) / 2
    match sorted[middle]? with
    | none => .ok low
    | some pivot =>
      match comesBefore key pivot with
      | .error fault => .error fault
      | .ok true => placeAmong sorted key low middle
      | .ok false => placeAmong sorted key (middle + 1) high
  else .ok low
termination_by high - low

/-- Sorted keys with one more in its place. -/
def insertKey (sorted : List Data) (key : Data) : Except OrderFault (List Data) := do
  let place ← placeAmong sorted key 0 sorted.length
  pure (sorted.take place ++ key :: sorted.drop place)

/-- Keys in ascending order, unless two that are compared have none. -/
def sortKeys (keys : List Data) : Except OrderFault (List Data) := do
  let (run, rest) ← leadingRun keys
  rest.foldlM insertKey run

/-- The pairs with one more. A key that is there keeps its place and takes the new
value. -/
def putPair {α : Type} (pairs : List (Data × α)) (key : Data) (value : α) : List (Data × α) :=
  if pairs.any (fun pair => pair.1.sameKey key) then
    pairs.map (fun pair => if pair.1.sameKey key then (pair.1, value) else pair)
  else pairs ++ [(key, value)]

/-- The value of a text key. -/
def lookup? (pairs : List (Data × Data)) (key : Text) : Option Data :=
  (pairs.find? (fun pair => pair.1.sameKey (.text key))).map Prod.snd

end Data

end SchemaForge

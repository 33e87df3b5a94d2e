import SchemaForge.Text.Basic

/-!
# Shortest decimals

A floating-point number is shown by the fewest decimal digits that read back as
the same number, and by the nearest such decimal. The digits are found by exact
arithmetic on natural numbers: the reals that round to a number form an interval,
whose ends belong to it exactly when the significand is even, and the coarsest
decimal grid with a point in it wins.

Numbers whose leading digit has an exponent from -4 to 15 are written in
positions, the others with an exponent of at least two digits.
-/

namespace SchemaForge.ShortestDecimal

/-- A finite number that is not negative: a significand times a power of two. -/
structure Binary where
  /-- The significand. -/
  significand : Nat
  /-- The power of two. -/
  exponent : Int
  /-- The gap to the number below is half the gap to the number above. -/
  narrowBelow : Bool

/-- The number of a row of bits. Infinities and what is no number are told apart
before. -/
def Binary.ofBits (bits : UInt64) : Binary :=
  let biased := ((bits >>> 52) &&& 0x7FF).toNat
  let fraction := (bits &&& 0xFFFFFFFFFFFFF).toNat
  if biased = 0 then ⟨fraction, -1074, false⟩
  else ⟨0x10000000000000 + fraction, (biased : Int) - 1075, fraction == 0 && 1 < biased⟩

/-- A decimal: digits times a power of ten. -/
structure Decimal where
  /-- The digits. -/
  digits : Nat
  /-- The power of ten. -/
  exponent : Int
deriving DecidableEq

/-- Compares a decimal with a binary number exactly. -/
def compareScaled (decimal : Decimal) (significand : Nat) (exponent : Int) : Ordering :=
  compare (decimal.digits * Nat.pow 10 decimal.exponent.toNat * Nat.pow 2 (-exponent).toNat)
    (significand * Nat.pow 2 exponent.toNat * Nat.pow 10 (-decimal.exponent).toNat)

/-- Whether a decimal reads back as a number: it lies between the midpoints to the
two neighbours, or on one of them if the significand is even. -/
def Binary.readsBack (number : Binary) (decimal : Decimal) : Bool :=
  let low := if number.narrowBelow then 4 * number.significand - 1 else 4 * number.significand - 2
  let high := 4 * number.significand + 2
  let inclusive := number.significand % 2 == 0
  let belowLow := compareScaled decimal low (number.exponent - 2)
  let belowHigh := compareScaled decimal high (number.exponent - 2)
  (belowLow == .gt || (inclusive && belowLow == .eq)) &&
    (belowHigh == .lt || (inclusive && belowHigh == .eq))

/-- Whether a number is less than a power of ten. -/
def Binary.isBelowPower (number : Binary) (power : Int) : Bool :=
  compareScaled ⟨1, power⟩ number.significand number.exponent == .gt

/-- The least power of ten above a number that is not zero, found upwards from below
every number. -/
def Binary.scale (number : Binary) : Int :=
  match (List.range 640).find? (fun (step : Nat) => number.isBelowPower ((step : Int) - 325)) with
  | some step => (step : Int) - 325
  | none => 310

/-- The whole number of grid steps of size ten to a power in a number. -/
def Binary.steps (number : Binary) (power : Int) : Nat :=
  (number.significand * Nat.pow 2 number.exponent.toNat * Nat.pow 10 (-power).toNat) /
    (Nat.pow 2 (-number.exponent).toNat * Nat.pow 10 power.toNat)

/-- The decimal of a grid that reads back as a number, the nearer of two; a tie goes to
the even one. -/
def Binary.onGrid? (number : Binary) (power : Int) : Option Decimal :=
  let below : Decimal := ⟨number.steps power, power⟩
  let above : Decimal := ⟨number.steps power + 1, power⟩
  match number.readsBack below, number.readsBack above with
  | false, false => none
  | true, false => some below
  | false, true => some above
  | true, true =>
    let middle : Decimal := ⟨below.digits + above.digits, power⟩
    match compareScaled middle (2 * number.significand) number.exponent with
    | .gt => some below
    | .lt => some above
    | .eq => if below.digits % 2 = 0 then some below else some above

/-- The decimal without zeros at the end of its digits. -/
def Decimal.stripped (decimal : Decimal) : Decimal :=
  let zeros := ((Nat.toDigits 10 decimal.digits).reverse.takeWhile (· == '0')).length
  ⟨decimal.digits / Nat.pow 10 zeros, decimal.exponent + zeros⟩

/-- The shortest decimal of a number that is not zero. Seventeen digits are always
enough. -/
def Binary.shortest (number : Binary) : Decimal :=
  let scale := number.scale
  match (List.range 17).findSome? (fun (count : Nat) =>
      number.onGrid? (scale - ((count : Int) + 1))) with
  | some decimal => decimal.stripped
  | none => ⟨number.steps (scale - 17), scale - 17⟩

/-- A decimal with at least one digit on either side of the point, or with an
exponent. -/
def Decimal.render (decimal : Decimal) : Text :=
  let digits := Text.ofNat decimal.digits
  let count := digits.length
  let point : Int := count + decimal.exponent
  let zeros (n : Nat) : Text := List.replicate n (CodePoint.ofChar '0')
  if -4 < point && point ≤ 16 then
    if point ≤ 0 then Text.concat ["0.", zeros (-point).toNat, digits]
    else if count ≤ point.toNat then Text.concat [digits, zeros (point.toNat - count), ".0"]
    else Text.concat [digits.take point.toNat, ".", digits.drop point.toNat]
  else
    let exponent := point - 1
    let fraction : Text := if count = 1 then [] else CodePoint.ofChar '.' :: digits.drop 1
    let sign : Text := if exponent < 0 then "-" else "+"
    Text.concat [digits.take 1, fraction, "e", sign, Text.padded 10 2 exponent.natAbs]

/-- A floating-point number as text. -/
def render (value : Float) : Text :=
  let bits := value.toBits
  let negative := bits >>> 63 == 1
  let sign : Text := if negative then "-" else []
  if (bits >>> 52) &&& 0x7FF == 0x7FF then
    if bits &&& 0xFFFFFFFFFFFFF == 0 then sign ++ "inf" else "nan"
  else
    let number := Binary.ofBits bits
    if number.significand = 0 then sign ++ "0.0" else sign ++ number.shortest.render

end SchemaForge.ShortestDecimal

/-! Binary floating point of 64 bits as exact numbers: the value nearest to a decimal fraction, and
the shortest decimal that is nearest to a given value. -/

namespace PanelMenu.Number

/-- A finite value is `mantissa * 2 ^ exponent`, with a sign that zero has too. -/
inductive Binary64
  | finite (negative : Bool) (mantissa : Nat) (exponent : Int)
  | infinite (negative : Bool)
  | notANumber
  deriving DecidableEq, Repr

namespace Binary64

/-- The least mantissa of the values that have all fifty-three bits. -/
private def implicitBit : Nat := 1 <<< 52

/-- The quotient rounded to the nearest integer, a half to the even one. -/
def roundDiv (numerator denominator : Nat) : Nat :=
  let quotient := numerator / denominator
  let twice := 2 * (numerator % denominator)
  if twice < denominator then quotient
  else if twice = denominator then quotient + quotient % 2
  else quotient + 1

/-- The two sides of `numerator / denominator = m * 2 ^ exponent`, solved for `m`. -/
private def scaledBy (numerator denominator : Nat) (exponent : Int) : Nat × Nat :=
  if 0 ≤ exponent then (numerator, denominator <<< exponent.toNat)
  else (numerator <<< (-exponent).toNat, denominator)

/-- The binary exponent at which a quotient has fifty-three bits, or the least one there is. -/
private def exponentFor (numerator denominator : Nat) : Int :=
  let guess : Int := (Nat.log2 numerator : Int) - (Nat.log2 denominator : Int) - 53
  let fits (exponent : Int) : Bool :=
    let (top, bottom) := scaledBy numerator denominator exponent
    top / bottom < implicitBit * 2
  let exact := if fits guess then guess else if fits (guess + 1) then guess + 1 else guess + 2
  max exact (-1074)

/-- The value nearest to a positive quotient. -/
def ofQuotient (negative : Bool) (numerator denominator : Nat) : Binary64 :=
  if numerator = 0 then .finite negative 0 0
  else
    let exponent := exponentFor numerator denominator
    let (top, bottom) := scaledBy numerator denominator exponent
    let mantissa := roundDiv top bottom
    let (mantissa, exponent) :=
      if mantissa = implicitBit * 2 then (implicitBit, exponent + 1) else (mantissa, exponent)
    if 971 < exponent then .infinite negative else .finite negative mantissa exponent

/-- The value nearest to `digits * 10 ^ exponent`. Exponents far outside the range of the type are
settled without computing the power. -/
def ofDecimal (negative : Bool) (digits : Nat) (exponent : Int) : Binary64 :=
  let size : Int := (Nat.toDigits 10 digits).length
  if digits = 0 || exponent + size < -400 then .finite negative 0 0
  else if 400 < exponent + size then .infinite negative
  else if 0 ≤ exponent then ofQuotient negative (digits * Nat.pow 10 exponent.toNat) 1
  else ofQuotient negative digits (Nat.pow 10 (-exponent).toNat)

/-- Twice the distance between neighbours, as a fraction: everything within half of it on either
side rounds to the value. All numbers share the denominator `4 * 2 ^ (-exponent)`. -/
private structure Interval where
  value : Nat
  low : Nat
  high : Nat
  denominator : Nat
  closed : Bool

private def interval (mantissa : Nat) (exponent : Int) : Interval :=
  let scale := if 0 ≤ exponent then 1 <<< exponent.toNat else 1
  let denominator := if 0 ≤ exponent then 4 else 4 <<< (-exponent).toNat
  let below := if mantissa = implicitBit && -1074 < exponent then 1 else 2
  { value := 4 * mantissa * scale
    low := (4 * mantissa - below) * scale
    high := (4 * mantissa + 2) * scale
    denominator := denominator
    closed := mantissa % 2 = 0 }

private def Interval.holds (range : Interval) (numerator denominator : Nat) : Bool :=
  let point := numerator * range.denominator
  let low := range.low * denominator
  let high := range.high * denominator
  if range.closed then low ≤ point && point ≤ high else low < point && point < high

/-- The nearer of the two neighbours of the value on the grid of multiples of `10 ^ exponent`, if
one of them rounds to the value. -/
private def Interval.onGrid (range : Interval) (exponent : Int) : Option Nat :=
  let up := if 0 ≤ exponent then Nat.pow 10 exponent.toNat else 1
  let down := if 0 ≤ exponent then 1 else Nat.pow 10 (-exponent).toNat
  let floor := range.value * down / (range.denominator * up)
  let inside (n : Nat) : Bool := range.holds (n * up) down
  let twice := 2 * range.value * down
  let middle := (2 * floor + 1) * up * range.denominator
  match inside floor, inside (floor + 1) with
  | true, true => some (if middle ≤ twice then floor + 1 else floor)
  | true, false => some floor
  | false, true => some (floor + 1)
  | false, false => none

/-- Tries one digit more at a time, on grids ever finer. -/
private def Interval.shortest (range : Interval) (top : Int) : Nat → Nat → Nat × Int
  | _, 0 => (0, 0)
  | count, fuel + 1 =>
    let exponent := top - count
    match range.onGrid exponent with
    | some digits => (digits, exponent)
    | none => range.shortest top (count + 1) fuel

/-- The number of decimal places before the point of `numerator / denominator`, which is positive;
zero or less if the first digit stands behind the point. -/
private def decimalTop (numerator denominator : Nat) : Int :=
  if denominator ≤ numerator then (Nat.toDigits 10 (numerator / denominator)).length
  else 1 - ((Nat.toDigits 10 (denominator / numerator)).length : Int)

/-- Digits and decimal exponent of the shortest decimal that rounds to a positive value. -/
def shortestDecimal (mantissa : Nat) (exponent : Int) : Nat × Int :=
  let range := interval mantissa exponent
  range.shortest (decimalTop range.value range.denominator) 0 20

private def zeros (n : Nat) : List Char :=
  List.replicate n '0'

/-- Digits with the point put where the exponent wants it, never with a power of ten. -/
private def positional (digits : Nat) (exponent : Int) : List Char :=
  let text := Nat.toDigits 10 digits
  if 0 ≤ exponent then text ++ zeros exponent.toNat ++ ['.', '0']
  else
    let behind := (-exponent).toNat
    let padded := zeros (behind + 1 - text.length) ++ text
    padded.take (padded.length - behind) ++ '.' :: padded.drop (padded.length - behind)

/-- Drops zeros at the end of the digits. -/
private def strip : Nat → Nat → Int → Nat × Int
  | 0, digits, exponent => (digits, exponent)
  | fuel + 1, digits, exponent =>
    if digits ≠ 0 && digits % 10 = 0 then strip fuel (digits / 10) (exponent + 1)
    else (digits, exponent)

/-- The shortest decimal in positional notation, always with a point. -/
def text : Binary64 → String
  | .notANumber => "NaN"
  | .infinite negative => if negative then "-inf" else "inf"
  | .finite negative mantissa exponent =>
    let sign := if negative then ['-'] else []
    let (digits, power) := if mantissa = 0 then (0, 0) else shortestDecimal mantissa exponent
    let (digits, power) := strip 20 digits power
    String.ofList (sign ++ positional digits power)

end Binary64
end PanelMenu.Number

import Pipewright.Number.Binary64

/-!
# Shortest decimal text of a double

A double stands for all real numbers that round to it.  Its shortest decimal is
the decimal with the fewest digits in that interval, and of those the one
nearest to the double.  The layout of the digits is a separate decision.
-/

namespace Pipewright

/-- The decimal `d.ddd * 10 ^ power`, given by its significant digits. -/
structure ShortDecimal where
  digits : List Char
  power : Int
deriving DecidableEq, Repr

namespace ShortDecimal

/-- The interval of reals that round to a positive double, as numerators over
one common denominator. -/
structure RoundingInterval where
  low : Nat
  value : Nat
  high : Nat
  denominator : Nat
  closed : Bool

/-- Halfway to the neighbours on both sides; below a power of two the
neighbour is twice as near.  The ends round to the double exactly when its
mantissa is even. -/
def RoundingInterval.of (number : Binary64) : RoundingInterval :=
  let below :=
    if number.mantissa = Nat.pow 2 52 ∧ number.exponent ≠ Binary64.leastExponent then 1 else 2
  let quarter := number.exponent - 2
  let unit := Nat.pow 2 quarter.toNat
  { low := (4 * number.mantissa - below) * unit
    value := 4 * number.mantissa * unit
    high := (4 * number.mantissa + 2) * unit
    denominator := Nat.pow 2 (-quarter).toNat
    closed := number.mantissa % 2 == 0 }

/-- Does the fraction `numerator / denominator` lie in the interval? -/
def RoundingInterval.contains (interval : RoundingInterval)
    (numerator denominator : Nat) : Bool :=
  let point := numerator * interval.denominator
  let low := interval.low * denominator
  let high := interval.high * denominator
  if interval.closed then low ≤ point && point ≤ high else low < point && point < high

/-- The number of decimal digits of a natural number. -/
def digitCount (number : Nat) : Nat :=
  (Nat.toDigits 10 number).length

/-- The power of ten of the leading digit of a positive fraction. -/
def leadingPower (numerator denominator : Nat) : Int :=
  if denominator ≤ numerator then (digitCount (numerator / denominator) : Int) - 1
  else -(digitCount ((denominator + numerator - 1) / numerator - 1) : Int)

/-- The better of the two neighbours of the interval's value on the grid of
multiples of `10 ^ power`, if one of them lies in the interval. -/
def onGrid (interval : RoundingInterval) (power : Int) : Option Nat :=
  let up := Nat.pow 10 power.toNat
  let down := Nat.pow 10 (-power).toNat
  let lower := interval.value * down / (interval.denominator * up)
  let remainder := interval.value * down % (interval.denominator * up)
  let upper := lower + 1
  let lowerFits := lower ≠ 0 && interval.contains (lower * up) down
  let upperFits := interval.contains (upper * up) down
  if lowerFits && upperFits then
    let twice := 2 * remainder
    let unit := interval.denominator * up
    if twice < unit then some lower
    else if unit < twice then some upper
    else some (lower + lower % 2)
  else if lowerFits then some lower
  else if upperFits then some upper
  else none

/-- The decimal with leading digits `coefficient` on the grid of multiples of
`10 ^ power`, without trailing zeros. -/
def ofGrid (coefficient : Nat) (power : Int) : ShortDecimal :=
  let digits := Nat.toDigits 10 coefficient
  let trimmed := (digits.reverse.dropWhile (· == '0')).reverse
  ⟨trimmed, power + digits.length - 1⟩

/-- The shortest decimal of a positive double: the first grid, from one digit
on, that has a point in the interval.  Seventeen digits always suffice. -/
def ofPositive (number : Binary64) : ShortDecimal :=
  let interval := RoundingInterval.of number
  let leading := leadingPower interval.value interval.denominator
  let candidate := (List.range 17).findSome? fun (count : Nat) =>
    let power := leading - count
    (onGrid interval power).map (ofGrid · power)
  candidate.getD ⟨['0'], 0⟩

end ShortDecimal

/-- Where positional notation ends and how an exponent is written. -/
structure DecimalLayout where
  leastPositional : Int
  greatestPositional : Int
deriving DecidableEq, Repr

namespace DecimalLayout

/-- Digits with the point set after the digit of power zero; a fractional part
is always written. -/
def positional (decimal : ShortDecimal) : List Char :=
  if decimal.power < 0 then
    ['0', '.'] ++ List.replicate (-decimal.power - 1).toNat '0' ++ decimal.digits
  else
    let whole := decimal.power.toNat + 1
    let padded := decimal.digits ++ List.replicate (whole - decimal.digits.length) '0'
    let fraction := decimal.digits.drop whole
    padded.take whole ++ '.' :: (if fraction.isEmpty then ['0'] else fraction)

/-- One digit before the point, the others behind it, and a signed exponent. -/
def scientific (decimal : ShortDecimal) : List Char :=
  let fraction := decimal.digits.drop 1
  let point := if fraction.isEmpty then [] else '.' :: fraction
  let sign := if decimal.power < 0 then '-' else '+'
  decimal.digits.take 1 ++ point ++ 'e' :: sign :: Nat.toDigits 10 decimal.power.natAbs

/-- The text of a double in this layout. -/
def write (layout : DecimalLayout) (number : Binary64) : List Char :=
  let sign := if number.negative then ['-'] else []
  if number.isZero then sign ++ ['0', '.', '0']
  else
    let decimal := ShortDecimal.ofPositive number
    sign ++
      if layout.leastPositional ≤ decimal.power ∧ decimal.power ≤ layout.greatestPositional then
        positional decimal
      else scientific decimal

end DecimalLayout

end Pipewright

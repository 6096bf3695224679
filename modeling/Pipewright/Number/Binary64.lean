/-!
# Binary floating-point numbers

A finite double is a sign, a mantissa and a power of two.  Every operation
computes the exact rational result and rounds it once, to the nearest double
and on a tie to the even mantissa, so that all arithmetic stays in the natural
numbers.
-/

namespace Pipewright

/-- The number `± mantissa * 2 ^ exponent`.  Rounding produces the form with a
mantissa below `2 ^ 53` and an exponent of at least `-1074`, where the mantissa
falls below `2 ^ 52` only at the least exponent. -/
structure Binary64 where
  negative : Bool
  mantissa : Nat
  exponent : Int
deriving DecidableEq, Repr, Inhabited

namespace Binary64

/-- The exponent of the smallest positive double. -/
def leastExponent : Int := -1074

/-- The exponent of the largest finite double. -/
def greatestExponent : Int := 971

/-- Zero with the given sign. -/
def zero (negative : Bool) : Binary64 :=
  ⟨negative, 0, leastExponent⟩

/-- The integer nearest to `numerator / denominator`; a half goes to the even
neighbour. -/
def nearestNat (numerator denominator : Nat) : Nat :=
  let quotient := numerator / denominator
  let twice := 2 * (numerator % denominator)
  if twice < denominator then quotient
  else if denominator < twice then quotient + 1
  else quotient + quotient % 2

/-- The fraction `numerator / (denominator * 2 ^ exponent)` as a pair of
naturals. -/
def scaled (numerator denominator : Nat) (exponent : Int) : Nat × Nat :=
  (numerator * Nat.pow 2 (-exponent).toNat, denominator * Nat.pow 2 exponent.toNat)

/-- The exponent at which a positive fraction is rounded: its mantissa then has
53 bits, or fewer at the least exponent. -/
def roundingExponent (numerator denominator : Nat) : Int :=
  let guess := (numerator.log2 : Int) - (denominator.log2 : Int) - 53
  let (upper, lower) := scaled numerator denominator guess
  max leastExponent (if Nat.pow 2 53 ≤ upper / lower then guess + 1 else guess)

/-- The double nearest to `numerator / denominator`, or nothing when that lies
beyond the finite range. -/
def ofRatio? (negative : Bool) (numerator denominator : Nat) : Option Binary64 :=
  if numerator = 0 then some (zero negative)
  else
    let exponent := roundingExponent numerator denominator
    let (upper, lower) := scaled numerator denominator exponent
    let mantissa := nearestNat upper lower
    let (mantissa, exponent) :=
      if mantissa = Nat.pow 2 53 then (Nat.pow 2 52, exponent + 1) else (mantissa, exponent)
    if greatestExponent < exponent then none else some ⟨negative, mantissa, exponent⟩

/-- The magnitude as a fraction of naturals. -/
def magnitude (number : Binary64) : Nat × Nat :=
  (number.mantissa * Nat.pow 2 number.exponent.toNat, Nat.pow 2 (-number.exponent).toNat)

/-- The rounded product, or nothing when it overflows. -/
def mul? (left right : Binary64) : Option Binary64 :=
  let (leftUpper, leftLower) := left.magnitude
  let (rightUpper, rightLower) := right.magnitude
  ofRatio? (left.negative != right.negative) (leftUpper * rightUpper) (leftLower * rightLower)

/-- The rounded quotient of a number by a nonzero one, or nothing when it
overflows. -/
def div? (left right : Binary64) : Option Binary64 :=
  let (leftUpper, leftLower) := left.magnitude
  let (rightUpper, rightLower) := right.magnitude
  ofRatio? (left.negative != right.negative) (leftUpper * rightLower) (leftLower * rightUpper)

/-- The double nearest to a decimal `digits * 10 ^ power`, or nothing when it
overflows. -/
def ofDecimal? (negative : Bool) (digits : Nat) (power : Int) : Option Binary64 :=
  ofRatio? negative (digits * Nat.pow 10 power.toNat) (Nat.pow 10 (-power).toNat)

/-- The number with the opposite sign. -/
def neg (number : Binary64) : Binary64 :=
  { number with negative := !number.negative }

/-- Is this one of the two zeros? -/
def isZero (number : Binary64) : Bool :=
  number.mantissa == 0

/-- Numeric equality: both zeros are the same number. -/
def same (left right : Binary64) : Bool :=
  left == right || (left.isZero && right.isZero)

/-- Has the number no fractional part? -/
def isIntegral (number : Binary64) : Bool :=
  number.mantissa % Nat.pow 2 (-number.exponent).toNat == 0

end Binary64

end Pipewright

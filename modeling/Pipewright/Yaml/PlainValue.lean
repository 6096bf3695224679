import Pipewright.Json.Basic
import Pipewright.Number.Digit

/-!
# Values of plain scalars

A plain scalar that is written like a null, a boolean or a number denotes one,
and every other denotes itself.  Digits behind a leading zero are no number.
-/

namespace Pipewright

namespace Yaml

namespace PlainValue

/-- Is this a null? -/
def isNull (text : String) : Bool :=
  ["null", "Null", "NULL", "~"].contains text

/-- The boolean that a text writes. -/
def boolean? (text : String) : Option Bool :=
  if ["true", "True", "TRUE"].contains text then some true
  else if ["false", "False", "FALSE"].contains text then some false
  else none

/-! ## Integers -/

/-- A text without its sign. -/
def withoutSign (text : List Char) : List Char :=
  match text with
  | '+' :: rest => rest
  | '-' :: rest => rest
  | _ => text

/-- Are these digits, several of them and the first a zero? -/
def hasLeadingZero (text : List Char) : Bool :=
  let digits := withoutSign text
  1 < digits.length && digits.head? == some '0' && digits.all Char.isDigit

/-- The base that a mark at the beginning of a text names, and the text behind
it. -/
def splitBase (text : List Char) : Nat × List Char :=
  match text with
  | '0' :: 'x' :: rest => (16, rest)
  | '0' :: 'o' :: rest => (8, rest)
  | '0' :: 'b' :: rest => (2, rest)
  | _ => (10, text)

/-- The integer that a text writes, if it fits into 128 bits. -/
def integer? (text : List Char) : Option Int :=
  match text with
  | '-' :: rest =>
      let (base, digits) := splitBase rest
      if base = 10 && hasLeadingZero text then none
      else (numberOfDigits? base digits).bind fun number =>
        if number ≤ Nat.pow 2 127 then some (-(number : Int)) else none
  | _ =>
      let unsigned := match text with
        | '+' :: rest => rest
        | _ => text
      let (base, digits) := splitBase unsigned
      if base = 10 && hasLeadingZero text then none
      else (numberOfDigits? base digits).bind fun number =>
        if number < Nat.pow 2 128 then some (number : Int) else none

/-- A document number, if the integer fits into 64 bits. -/
def number? (value : Int) : Option Json :=
  if -(Nat.pow 2 63 : Int) ≤ value ∧ value < (Nat.pow 2 64 : Int) then
    some (.number (.integer value))
  else none

/-! ## Fractions -/

/-- The digits before and behind the point, and the text behind them. -/
def splitFraction (text : List Char) : List Char × List Char × List Char :=
  let whole := text.takeWhile Char.isDigit
  match text.dropWhile Char.isDigit with
  | '.' :: rest => (whole, rest.takeWhile Char.isDigit, rest.dropWhile Char.isDigit)
  | rest => (whole, [], rest)

/-- The power of ten that the end of a text writes. -/
def exponent? (text : List Char) : Option Int :=
  match text with
  | [] => some 0
  | mark :: rest =>
      if mark == 'e' || mark == 'E' then
        match rest with
        | '-' :: digits => (numberOfDigits? 10 digits).map fun number => -(number : Int)
        | _ =>
            let digits := match rest with
              | '+' :: digits => digits
              | _ => rest
            (numberOfDigits? 10 digits).map fun number => (number : Int)
      else none

/-- Numbers of at least this magnitude, in powers of ten, are infinite, and
numbers of the opposite magnitude are zero. -/
def magnitudeLimit : Int := 400

/-- The double nearest to a decimal, or nothing when it is infinite. -/
def decimal? (negative : Bool) (digits : List Char) (power : Int) : Option Binary64 :=
  match numberOfDigits? 10 digits with
  | none => none
  | some 0 => some (Binary64.zero negative)
  | some number =>
      let significant := digits.dropWhile (· == '0')
      let magnitude := (significant.length : Int) + power
      if magnitudeLimit < magnitude then none
      else if magnitude < -magnitudeLimit then some (Binary64.zero negative)
      else Binary64.ofDecimal? negative number power

/-- The finite double that a text writes; a point needs a digit on one of its
sides. -/
def finite? (text : List Char) : Option Binary64 :=
  let (whole, fraction, rest) := splitFraction (withoutSign text)
  (exponent? rest).bind fun power =>
    decimal? (text.head? == some '-') (whole ++ fraction) (power - fraction.length)

/-- The value that a text with a fraction or an exponent writes.  Infinities and
what is not a number have no value in a document. -/
def real? (text : String) : Option Json :=
  let infinities := [".inf", ".Inf", ".INF"]
  if infinities.contains text || (infinities.map ("+" ++ ·)).contains text ||
      (infinities.map ("-" ++ ·)).contains text then some .null
  else if [".nan", ".NaN", ".NAN"].contains text then some .null
  else (finite? text.toList).map fun number => .number (.real number)

/-! ## All values -/

/-- The value of a plain scalar, or nothing for an integer that is too large. -/
def resolve? (text : String) : Option Json :=
  if text.isEmpty || isNull text then some .null
  else
    match boolean? text with
    | some value => some (.boolean value)
    | none =>
        match integer? text.toList with
        | some value => number? value
        | none =>
            if hasLeadingZero text.toList then some (.string text)
            else some ((real? text).getD (.string text))

end PlainValue

end Yaml

end Pipewright

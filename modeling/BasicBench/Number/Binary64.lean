/-!
Numbers in double precision. A ratio is rounded once, to the nearest representable number and
to the even one of two equally near ones; every text of such a number is then computed from its
exact value in integers, so no second rounding can creep in.
-/

set_option autoImplicit false

namespace BasicBench.Number

/-- The quotient rounded to the nearest integer; a half goes to the even neighbour. -/
def roundDiv (numerator denominator : Nat) : Nat :=
  let quotient := numerator / denominator
  let rest := numerator % denominator
  if 2 * rest > denominator || (2 * rest == denominator && quotient % 2 == 1) then quotient + 1
  else quotient

/-- A magnitude: the mantissa times two to the exponent. -/
structure Binary64 where
  mantissa : Nat
  exponent : Int
  deriving DecidableEq, Repr

namespace Binary64

/-- A ratio times ten or two to a power, as a ratio. -/
def scale (base : Nat) (power : Int) (numerator denominator : Nat) : Nat × Nat :=
  match power with
  | .ofNat power => (numerator * Nat.pow base power, denominator)
  | .negSucc power => (numerator, denominator * Nat.pow base (power + 1))

/-- The mantissa of a ratio for a chosen exponent. -/
def mantissaAt (exponent : Int) (numerator denominator : Nat) : Nat :=
  let (above, below) := scale 2 (-exponent) numerator denominator
  roundDiv above below

/-- The exponent that leaves 53 bits of a ratio before the point, or the least one there is. -/
def exponentOf (numerator denominator : Nat) : Int :=
  let guess : Int := Int.ofNat numerator.log2 - Int.ofNat denominator.log2 - 52
  let (above, below) := scale 2 (-guess) numerator denominator
  max (if above / below < Nat.pow 2 52 then guess - 1 else guess) (-1074)

/-- The nearest number to a ratio; nothing when it is too large. -/
def ofRatio? (numerator denominator : Nat) : Option Binary64 :=
  if numerator = 0 then some ⟨0, -1074⟩
  else
    let exponent := exponentOf numerator denominator
    let mantissa := mantissaAt exponent numerator denominator
    let rounded : Binary64 :=
      if mantissa = Nat.pow 2 53 then ⟨Nat.pow 2 52, exponent + 1⟩ else ⟨mantissa, exponent⟩
    if rounded.exponent > 971 then none else some rounded

/-- The exact value, as a ratio. -/
def toRatio (value : Binary64) : Nat × Nat := scale 2 value.exponent value.mantissa 1

end Binary64

/-- The decimal digits of a number. -/
def digitsOf (value : Nat) : List Char := Nat.toDigits 10 value

/-- The power of ten at or below a positive ratio. -/
def decimalExponent (numerator denominator : Nat) : Int :=
  if numerator ≥ denominator then Int.ofNat (digitsOf (numerator / denominator)).length - 1
  else
    let length := (digitsOf (denominator / numerator)).length
    if numerator * Nat.pow 10 (length - 1) ≥ denominator then 1 - Int.ofNat length
    else - Int.ofNat length

/-- Digits before a decimal exponent: the number is `0.d₁d₂…` times ten to one more than the
exponent, and the last digit is not zero unless the number is. -/
structure Decimal where
  digits : List Char
  exponent : Int
  deriving DecidableEq, Repr

namespace Decimal

def dropZeros (digits : List Char) : List Char :=
  ((digits.reverse).dropWhile (· == '0')).reverse

/-- The number with a last digit in the place given by `count` and the exponent. -/
def ofScaled (count : Nat) (exponent : Int) (scaled : Nat) : Decimal :=
  if scaled = Nat.pow 10 count then ⟨['1'], exponent + 1⟩ else ⟨dropZeros (digitsOf scaled), exponent⟩

/-- The two neighbours of a positive ratio among the numbers with so many significant digits,
the nearer one first. -/
def neighbours (count : Nat) (numerator denominator : Nat) : Decimal × Decimal :=
  let exponent := decimalExponent numerator denominator
  let (above, below) :=
    Binary64.scale 10 (Int.ofNat count - 1 - exponent) numerator denominator
  let lower := above / below
  let nearer := roundDiv above below
  (ofScaled count exponent nearer,
    ofScaled count exponent (if nearer = lower then lower + 1 else lower))

/-- A positive ratio rounded to a number of significant digits. -/
def round (count : Nat) (numerator denominator : Nat) : Decimal :=
  (neighbours count numerator denominator).1

/-- The number that the digits denote, as a ratio. -/
def toRatio (decimal : Decimal) : Nat × Nat :=
  let value := decimal.digits.foldl (fun sum digit => sum * 10 + (digit.toNat - 48)) 0
  Binary64.scale 10 (decimal.exponent - (Int.ofNat decimal.digits.length - 1)) value 1

/-- Whether the digits read back as the number. -/
def denotes (decimal : Decimal) (value : Binary64) : Bool :=
  Binary64.ofRatio? decimal.toRatio.1 decimal.toRatio.2 == some value

/-- The shortest digits that read back as the number, tried from `count` digits on. Where the
gap to the next number is smaller on one side, the farther neighbour may read back and the
nearer one not. -/
def shortestFrom (value : Binary64) (count : Nat) : Nat → Decimal
  | 0 => round count value.toRatio.1 value.toRatio.2
  | fuel + 1 =>
      let (nearer, farther) := neighbours count value.toRatio.1 value.toRatio.2
      if nearer.denotes value then nearer
      else if farther.denotes value then farther
      else shortestFrom value (count + 1) fuel

/-- The shortest digits that read back as a positive number; seventeen always suffice. -/
def shortest (value : Binary64) : Decimal := shortestFrom value 1 16

/-- Positional notation, with a point only where digits follow it. -/
def positional (decimal : Decimal) : List Char :=
  match decimal.exponent with
  | .ofNat exponent =>
      let whole := decimal.digits.take (exponent + 1)
      let padded := whole ++ List.replicate (exponent + 1 - whole.length) '0'
      match decimal.digits.drop (exponent + 1) with
      | [] => padded
      | fraction => padded ++ '.' :: fraction
  | .negSucc zeros => "0.".toList ++ List.replicate zeros '0' ++ decimal.digits

/-- Exponent notation, with a sign and at least two digits in the exponent. -/
def scientific (decimal : Decimal) : List Char :=
  let size := digitsOf decimal.exponent.natAbs
  let sign := if decimal.exponent < 0 then '-' else '+'
  let fraction := match decimal.digits.drop 1 with
    | [] => []
    | rest => '.' :: rest
  decimal.digits.take 1 ++ fraction ++ 'e' :: sign ::
    (if size.length < 2 then '0' :: size else size)

end Decimal

/-- Six significant digits; exponent notation below a ten-thousandth and from a million on. -/
def sixDigits (value : Binary64) : List Char :=
  if value.mantissa = 0 then ['0']
  else
    let decimal := Decimal.round 6 value.toRatio.1 value.toRatio.2
    if decimal.exponent < -4 || decimal.exponent ≥ 6 then decimal.scientific
    else decimal.positional

/-- Six digits after the point. -/
def sixPlaces (value : Binary64) : List Char :=
  let (numerator, denominator) := value.toRatio
  let shown := digitsOf (roundDiv (numerator * Nat.pow 10 6) denominator)
  let padded := List.replicate (7 - shown.length) '0' ++ shown
  padded.take (padded.length - 6) ++ '.' :: padded.drop (padded.length - 6)

/-- The shortest text that reads back, always with a point or an exponent. -/
def shortestText (value : Binary64) : List Char :=
  if value.mantissa = 0 then "0.0".toList
  else
    let decimal := Decimal.shortest value
    if decimal.exponent < -4 || decimal.exponent ≥ 16 then decimal.scientific
    else if decimal.digits.length ≤ decimal.exponent + 1 then decimal.positional ++ ".0".toList
    else decimal.positional

end BasicBench.Number

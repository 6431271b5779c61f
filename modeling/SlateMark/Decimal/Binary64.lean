/-!
Floating point numbers as exact fractions. A finite number of the 64 bit format is a significand
times a power of two; here its bits are taken apart, and the format's nearest number to a fraction
is put together, ties going to the even significand.
-/
namespace SlateMark.Decimal

/-- The value `significand · 2 ^ exponent`, with the sign apart. The lower neighbour is nearer than
the upper one when `narrowBelow` holds. -/
structure Binary where
  negative : Bool
  significand : Nat
  exponent : Int
  narrowBelow : Bool
  deriving DecidableEq, Repr

inductive FloatValue where
  | notANumber
  | infinite (negative : Bool)
  | finite (value : Binary)
  deriving DecidableEq, Repr

def FloatValue.ofFloat (x : Float) : FloatValue :=
  let bits := x.toBits.toNat
  let negative := bits / Nat.pow 2 63 = 1
  let biased : Nat := bits / Nat.pow 2 52 % Nat.pow 2 11
  let fraction := bits % Nat.pow 2 52
  if biased = 2047 then
    if fraction = 0 then .infinite negative else .notANumber
  else if biased = 0 then .finite ⟨negative, fraction, -1074, false⟩
  else
    .finite ⟨negative, Nat.pow 2 52 + fraction, (biased : Int) - 1075, fraction = 0 && 1 < biased⟩

/-- A quotient rounded to the nearest whole number, a half to the even one. -/
def roundQuotient (numerator denominator : Nat) : Nat :=
  let whole := numerator / denominator
  let twice := 2 * (numerator % denominator)
  if twice < denominator then whole
  else if denominator < twice then whole + 1
  else if whole % 2 = 0 then whole
  else whole + 1

/-- The exponent with which the quotient has 53 significant bits, but never one below the format's
least exponent. The logarithms leave it undetermined by one, which the comparison settles. -/
def scaleExponent (numerator denominator : Nat) : Int :=
  let guess : Int := (Nat.log2 numerator : Int) - Nat.log2 denominator - 53
  let tooSmall :=
    denominator * Nat.pow 2 (guess + 53).toNat ≤ numerator * Nat.pow 2 (-(guess + 53)).toNat
  max (if tooSmall then guess + 1 else guess) (-1074)

/-- The bits of the number nearest to a nonnegative fraction; beyond the largest number, of
infinity. -/
def nearestBits (numerator denominator : Nat) : Nat :=
  if numerator = 0 then 0
  else
    let exponent := scaleExponent numerator denominator
    let rounded :=
      roundQuotient (numerator * Nat.pow 2 (-exponent).toNat)
        (denominator * Nat.pow 2 exponent.toNat)
    let bits := (exponent + 1074).toNat * Nat.pow 2 52 + rounded
    min bits (2047 * Nat.pow 2 52)

/-- The number nearest to `mantissa · 10 ^ exponent`. Magnitudes far outside the format's range are
settled without their powers of ten. -/
def nearestFloat (negative : Bool) (mantissa : Nat) (exponent : Int) : Float :=
  let digits : Int := (Nat.toDigits 10 mantissa).length
  let bits :=
    if mantissa = 0 ∨ digits + exponent < -400 then 0
    else if 400 < digits + exponent then 2047 * Nat.pow 2 52
    else nearestBits (mantissa * Nat.pow 10 exponent.toNat) (Nat.pow 10 (-exponent).toNat)
  Float.ofBits (if negative then bits + Nat.pow 2 63 else bits).toUInt64

end SlateMark.Decimal

import SlateMark.Decimal.Binary64

/-!
The shortest decimal that reads back as a given floating point number. All reals in an interval
around the number are rounded to it; grids of ever more digits are tried until a point next to the
number lies in that interval, and of two such points the nearer is taken.
-/
namespace SlateMark.Decimal

/-- The value `digits · 10 ^ exponent`. -/
structure Digits where
  digits : Nat
  exponent : Int
  deriving DecidableEq, Repr

/-- A fraction and the bounds within which reals round to it, over one denominator. -/
structure Interval where
  low : Nat
  value : Nat
  high : Nat
  denominator : Nat
  closed : Bool
  deriving DecidableEq, Repr

/-- The bounds lie half way to the neighbours; a bound itself is rounded to the even significand. -/
def Binary.interval (x : Binary) : Interval :=
  let up := Nat.pow 2 (x.exponent - 2).toNat
  let low := 4 * x.significand - (if x.narrowBelow then 1 else 2)
  ⟨low * up, 4 * x.significand * up, (4 * x.significand + 2) * up, Nat.pow 2 (2 - x.exponent).toNat,
    x.significand % 2 = 0⟩

/-- Whether `digits · 10 ^ exponent` lies in the interval. -/
def Interval.holds (i : Interval) (digits : Nat) (exponent : Int) : Bool :=
  let point := digits * Nat.pow 10 exponent.toNat * i.denominator
  let unit := Nat.pow 10 (-exponent).toNat
  if i.closed then i.low * unit ≤ point && point ≤ i.high * unit
  else i.low * unit < point && point < i.high * unit

/-- The number of digits before the decimal point, negative for zeros after it: the least `k` with
the value below `10 ^ k`. It is searched upwards from `start`, in at most `fuel` steps. -/
def pointFrom (numerator denominator : Nat) (start : Int) : Nat → Int
  | 0 => start
  | fuel + 1 =>
    if numerator * Nat.pow 10 (-start).toNat < denominator * Nat.pow 10 start.toNat then start
    else pointFrom numerator denominator (start + 1) fuel

/-- The decimal logarithm is three tenths of the binary one, up to a part in three hundred. -/
def point (numerator denominator : Nat) : Int :=
  let bits : Int := (Nat.log2 numerator : Int) - Nat.log2 denominator
  pointFrom numerator denominator (bits * 3 / 10 - 5) 30

/-- The points of the grid `10 ^ exponent` next to the value that lie in the interval. -/
def Interval.nearPoint? (i : Interval) (exponent : Int) : Option Nat :=
  let numerator := i.value * Nat.pow 10 (-exponent).toNat
  let unit := i.denominator * Nat.pow 10 exponent.toNat
  let below := numerator / unit
  let nearest := roundQuotient numerator unit
  let other := if nearest = below then below + 1 else below
  if i.holds nearest exponent then some nearest
  else if i.holds other exponent then some other
  else none

/-- Trailing zeros move into the exponent. -/
def stripZeros (digits : Nat) (exponent : Int) : Nat → Digits
  | 0 => ⟨digits, exponent⟩
  | fuel + 1 =>
    if digits % 10 = 0 then stripZeros (digits / 10) (exponent + 1) fuel else ⟨digits, exponent⟩

/-- The first grid with a hit, from `count` digits on. Seventeen digits always suffice. -/
def Interval.shortestFrom (i : Interval) (point : Int) (count : Nat) : Nat → Digits
  | 0 => ⟨i.value / i.denominator, 0⟩
  | fuel + 1 =>
    match i.nearPoint? (point - count) with
    | some digits => stripZeros digits (point - count) (count + 1)
    | none => i.shortestFrom point (count + 1) fuel

def Binary.shortest (x : Binary) : Digits :=
  if x.significand = 0 then ⟨0, 0⟩
  else
    let i := x.interval
    i.shortestFrom (point i.value i.denominator) 1 17

end SlateMark.Decimal

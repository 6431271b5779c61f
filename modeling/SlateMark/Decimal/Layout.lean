import SlateMark.Decimal.Shortest

/-!
Written forms of floating point numbers. A layout fixes where positional notation ends and how the
values that are no finite numbers are spelled.
-/
namespace SlateMark.Decimal

/-- Positional notation is used while the decimal point stands after the position `leastPoint` and
not after `mostPoint`, counted from the first digit. -/
structure Layout where
  leastPoint : Int
  mostPoint : Int
  exponentWidth : Nat
  infinity : String
  notANumber : String
  deriving DecidableEq, Repr

def padZeros (width : Nat) (digits : List Char) : List Char :=
  List.replicate (width - digits.length) '0' ++ digits

/-- The exponent carries its sign and at least `width` digits. -/
def exponentText (width : Nat) (e : Int) : List Char :=
  'e' :: (if e < 0 then '-' else '+') :: padZeros width (Nat.toDigits 10 e.natAbs)

/-- A whole number keeps one zero after the point in positional notation only. -/
def Layout.digitsText (layout : Layout) (d : Digits) : List Char :=
  let text := Nat.toDigits 10 d.digits
  let point : Int := text.length + d.exponent
  if d.digits = 0 then ['0', '.', '0']
  else if layout.leastPoint < point ∧ point ≤ layout.mostPoint then
    if point ≤ 0 then '0' :: '.' :: List.replicate (-point).toNat '0' ++ text
    else if text.length ≤ point.toNat then
      text ++ List.replicate (point.toNat - text.length) '0' ++ ['.', '0']
    else text.take point.toNat ++ '.' :: text.drop point.toNat
  else
    let fraction := text.drop 1
    text.take 1 ++ (if fraction.isEmpty then [] else '.' :: fraction) ++
      exponentText layout.exponentWidth (point - 1)

def Layout.floatText (layout : Layout) (x : Float) : List Char :=
  match FloatValue.ofFloat x with
  | .notANumber => layout.notANumber.toList
  | .infinite negative =>
    (if negative then ['-'] else []) ++ layout.infinity.toList
  | .finite value =>
    (if value.negative then ['-'] else []) ++ layout.digitsText value.shortest

end SlateMark.Decimal

/-!
Numbers in hexadecimal: written in lower case with a least width, read in either case.
-/
namespace SlateMark.Text

def hex (width n : Nat) : List Char :=
  let digits := Nat.toDigits 16 n
  List.replicate (width - digits.length) '0' ++ digits

def hexDigit? (c : Char) : Option Nat :=
  if '0' ≤ c ∧ c ≤ '9' then some (c.toNat - '0'.toNat)
  else if 'a' ≤ c ∧ c ≤ 'f' then some (c.toNat - 'a'.toNat + 10)
  else if 'A' ≤ c ∧ c ≤ 'F' then some (c.toNat - 'A'.toNat + 10)
  else none

/-- The number spelled by hexadecimal digits, with `start` for the digits read before. -/
def hexFrom? (start : Nat) : List Char → Option Nat
  | [] => some start
  | c :: rest =>
    match hexDigit? c with
    | some value => hexFrom? (16 * start + value) rest
    | none => none

end SlateMark.Text

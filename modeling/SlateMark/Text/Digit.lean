import SlateMark.Text.Blank

/-!
Decimal digits of every script. Unicode keeps each script's ten digits together in ascending order,
so the zeros alone determine the value of a digit.
-/
namespace SlateMark.Text

def digitZeros : List Nat :=
  [0x30, 0x660, 0x6f0, 0x7c0, 0x966, 0x9e6, 0xa66, 0xae6, 0xb66, 0xbe6, 0xc66, 0xce6, 0xd66,
    0xde6, 0xe50, 0xed0, 0xf20, 0x1040, 0x1090, 0x17e0, 0x1810, 0x1946, 0x19d0, 0x1a80, 0x1a90,
    0x1b50, 0x1bb0, 0x1c40, 0x1c50, 0xa620, 0xa8d0, 0xa900, 0xa9d0, 0xa9f0, 0xaa50, 0xabf0,
    0xff10, 0x104a0, 0x10d30, 0x11066, 0x110f0, 0x11136, 0x111d0, 0x112f0, 0x11450, 0x114d0,
    0x11650, 0x116c0, 0x11730, 0x118e0, 0x11950, 0x11c50, 0x11d50, 0x11da0, 0x16a60, 0x16ac0,
    0x16b50, 0x1d7ce, 0x1d7d8, 0x1d7e2, 0x1d7ec, 0x1d7f6, 0x1e140, 0x1e2f0, 0x1e950, 0x1fbf0]

def digitValue? (c : Char) : Option Nat :=
  (digitZeros.find? fun first => first ≤ c.toNat && c.toNat ≤ first + 9).map (c.toNat - ·)

/-- The number that a run of digits spells, with `start` for the digits read before it. -/
def numeralFrom? (start : Nat) : List Char → Option Nat
  | [] => some start
  | c :: rest =>
    match digitValue? c with
    | some value => numeralFrom? (10 * start + value) rest
    | none => none

/-- The number a text spells in decimal digits; the empty text spells none. -/
def numeral? : List Char → Option Nat
  | [] => none
  | s => numeralFrom? 0 s

/-- Blanks around the digits do not count. -/
def strippedNumeral? (s : String) : Option Nat := numeral? (strip s.toList)

/-- The digits of a numeral in which single underscores may stand between digits; `digitBefore`
tells whether a digit stands before the text. -/
def ungrouped? (digitBefore : Bool) : List Char → Option (List Char)
  | [] => if digitBefore then some [] else none
  | '_' :: rest => if digitBefore then ungrouped? false rest else none
  | c :: rest => (ungrouped? true rest).map (c :: ·)

/-- The number of digits with an optional sign before them. -/
def signedNumeral? : List Char → Option Int
  | '-' :: digits => (ungrouped? false digits).bind numeral? |>.map fun n => -(n : Int)
  | '+' :: digits => (ungrouped? false digits).bind numeral? |>.map Int.ofNat
  | digits => (ungrouped? false digits).bind numeral? |>.map Int.ofNat

/-- The integer a text spells; blanks around it do not count. -/
def integer? (s : String) : Option Int := signedNumeral? (strip s.toList)

end SlateMark.Text

/-!
Classes of characters given as lists of closed code point ranges. Three of them are tables of the
Unicode standard, version 14: blanks, decimal digits and the characters that have no glyph.
-/
namespace SlateMark.Text

abbrev Ranges := List (Nat × Nat)

def Ranges.contains (ranges : Ranges) (c : Char) : Bool :=
  ranges.any fun range => range.1 ≤ c.toNat && c.toNat ≤ range.2

end SlateMark.Text

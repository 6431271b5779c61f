import SlateMark.Text.Hex
import SlateMark.Text.Printable

/-!
Quoted text, as diagnostics show it. The text stands between apostrophes, or between double quotes
when it holds an apostrophe and no double quote; the mark in use and the backslash are escaped, and
so is every character that cannot be seen.
-/
namespace SlateMark.Text

def apostrophe : Char := '\x27'

def doubleQuote : Char := '\x22'

def quoteMark (s : List Char) : Char :=
  if s.contains apostrophe && !s.contains doubleQuote then doubleQuote else apostrophe

/-- An invisible character by its number, in the narrowest of the three widths that holds it. -/
def numericEscape (c : Char) : List Char :=
  if c.toNat < 0x100 then '\\' :: 'x' :: hex 2 c.toNat
  else if c.toNat < 0x10000 then '\\' :: 'u' :: hex 4 c.toNat
  else '\\' :: 'U' :: hex 8 c.toNat

def quotedChar (mark c : Char) : List Char :=
  if c = mark ∨ c = '\\' then ['\\', c]
  else if c = '\n' then ['\\', 'n']
  else if c = '\r' then ['\\', 'r']
  else if c = '\t' then ['\\', 't']
  else if isPrintable c then [c]
  else numericEscape c

def quoted (s : String) : String :=
  let mark := quoteMark s.toList
  String.ofList (mark :: s.toList.flatMap (quotedChar mark) ++ [mark])

end SlateMark.Text

import SlateMark.Json.Basic
import SlateMark.Text.Hex

/-!
JSON text. A style says whether characters outside ASCII are escaped and whether members and items
stand on lines of their own; without such lines a blank follows each comma.
-/
namespace SlateMark.Json

/-- `indent` is the number of blanks per level; none at all puts everything on one line. -/
structure Style where
  ascii : Bool
  indent : Option Int
  deriving DecidableEq, Repr

/-- Numbers that are not finite have no JSON form and are written as bare words. -/
def floatLayout : Decimal.Layout := ⟨-4, 16, 2, "Infinity", "NaN"⟩

def intText (n : Int) : List Char :=
  if n < 0 then '-' :: Nat.toDigits 10 n.natAbs else Nat.toDigits 10 n.natAbs

def unicodeEscape (unit : Nat) : List Char := '\\' :: 'u' :: Text.hex 4 unit

/-- Code points above the sixteen bit range take two escapes. -/
def charEscape (c : Char) : List Char :=
  if c.toNat < 0x10000 then unicodeEscape c.toNat
  else
    let n := c.toNat - 0x10000
    unicodeEscape (0xd800 + n / 1024) ++ unicodeEscape (0xdc00 + n % 1024)

def writeChar (ascii : Bool) (c : Char) : List Char :=
  if c = '\x22' ∨ c = '\\' then ['\\', c]
  else if c = '\n' then ['\\', 'n']
  else if c = '\r' then ['\\', 'r']
  else if c = '\t' then ['\\', 't']
  else if c = '\x08' then ['\\', 'b']
  else if c = '\x0c' then ['\\', 'f']
  else if c.toNat < 0x20 ∨ (ascii ∧ 0x7f ≤ c.toNat) then charEscape c
  else [c]

def writeString (ascii : Bool) (s : String) : List Char :=
  '\x22' :: s.toList.flatMap (writeChar ascii) ++ ['\x22']

/-- The start of a line at a depth. -/
def Style.lineBreak (style : Style) (depth : Nat) : List Char :=
  match style.indent with
  | none => []
  | some width => '\n' :: List.replicate (width * depth).toNat ' '

def Style.separator (style : Style) (depth : Nat) : List Char :=
  match style.indent with
  | none => [',', ' ']
  | some _ => ',' :: style.lineBreak depth

mutual
def write (style : Style) (depth : Nat) : Json → List Char
  | .null => ['n', 'u', 'l', 'l']
  | .bool true => ['t', 'r', 'u', 'e']
  | .bool false => ['f', 'a', 'l', 's', 'e']
  | .int n => intText n
  | .float x => floatLayout.floatText x
  | .str s => writeString style.ascii s
  | .arr [] => ['[', ']']
  | .arr (v :: rest) =>
    '[' :: style.lineBreak (depth + 1) ++ write style (depth + 1) v ++
      writeItems style (depth + 1) rest ++ style.lineBreak depth ++ [']']
  | .obj [] => ['{', '}']
  | .obj ((name, v) :: rest) =>
    '{' :: style.lineBreak (depth + 1) ++ writeString style.ascii name ++ [':', ' '] ++
      write style (depth + 1) v ++ writeFields style (depth + 1) rest ++
      style.lineBreak depth ++ ['}']

/-- Items after the first, each behind a separator. -/
def writeItems (style : Style) (depth : Nat) : List Json → List Char
  | [] => []
  | v :: rest => style.separator depth ++ write style depth v ++ writeItems style depth rest

def writeFields (style : Style) (depth : Nat) : List (String × Json) → List Char
  | [] => []
  | (name, v) :: rest =>
    style.separator depth ++ writeString style.ascii name ++ [':', ' '] ++
      write style depth v ++ writeFields style depth rest
end

def render (style : Style) (v : Json) : String := String.ofList (v.write style 0)

/-- Documents are written with their characters as they are. -/
def documentText (indent : Option Int) (v : Json) : String := v.render ⟨false, indent⟩

/-- Diagnostics show a value on one line of ASCII. -/
def asciiText (v : Json) : String := v.render ⟨true, none⟩

end SlateMark.Json

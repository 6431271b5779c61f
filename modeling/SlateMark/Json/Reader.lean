import SlateMark.Json.Basic
import SlateMark.Text.Hex

/-!
Reading JSON text. Beyond the standard the words `NaN`, `Infinity` and `-Infinity` are numbers. A
fault carries the text that was left where it was found; its place in the whole text is the
difference of the two lengths. Repeated names keep their first place and their last value.
-/
namespace SlateMark.Json

inductive Problem where
  | byteOrderMark
  | expectedValue
  | expectedName
  | expectedColon
  | expectedComma
  | unterminatedString
  | controlCharacter
  | invalidEscape
  | invalidUnicodeEscape
  | extraData
  deriving DecidableEq, Repr

structure Fault where
  problem : Problem
  rest : List Char
  deriving DecidableEq, Repr

/-- A problem at an index of the text, whose line and column are counted from one. -/
structure SyntaxError where
  problem : Problem
  position : Nat
  line : Nat
  column : Nat
  deriving DecidableEq, Repr

def Problem.message : Problem → String
  | .byteOrderMark => "Unexpected UTF-8 BOM (decode using utf-8-sig)"
  | .expectedValue => "Expecting value"
  | .expectedName => "Expecting property name enclosed in double quotes"
  | .expectedColon => "Expecting ':' delimiter"
  | .expectedComma => "Expecting ',' delimiter"
  | .unterminatedString => "Unterminated string starting at"
  | .controlCharacter => "Invalid control character at"
  | .invalidEscape => "Invalid \\escape"
  | .invalidUnicodeEscape => "Invalid \\uXXXX escape"
  | .extraData => "Extra data"

def SyntaxError.message (e : SyntaxError) : String :=
  s!"{e.problem.message}: line {e.line} column {e.column} (char {e.position})"

def Fault.located (text : List Char) (fault : Fault) : SyntaxError :=
  let position := text.length - fault.rest.length
  let before := text.take position
  ⟨fault.problem, position, before.count '\n' + 1,
    (before.reverse.takeWhile (· ≠ '\n')).length + 1⟩

def isSpace (c : Char) : Bool := c = ' ' || c = '\t' || c = '\n' || c = '\r'

def skipSpace (s : List Char) : List Char := s.dropWhile isSpace

/-- What a backslash and this character stand for. -/
def shortEscape? (c : Char) : Option Char :=
  if c = '\x22' then some '\x22'
  else if c = '\\' then some '\\'
  else if c = '/' then some '/'
  else if c = 'b' then some '\x08'
  else if c = 'f' then some '\x0c'
  else if c = 'n' then some '\n'
  else if c = 'r' then some '\r'
  else if c = 't' then some '\t'
  else none

/-- The number of four hexadecimal digits that are followed by at least one more character. -/
def codeUnit? (s : List Char) : Option Nat :=
  if s.length < 5 then none else Text.hexFrom? 0 (s.take 4)

def isHighSurrogate (unit : Nat) : Bool := 0xd800 ≤ unit && unit < 0xdc00

def isLowSurrogate (unit : Nat) : Bool := 0xdc00 ≤ unit && unit < 0xe000

def isSurrogate (unit : Nat) : Bool := isHighSurrogate unit || isLowSurrogate unit

/-- Half of a surrogate pair on its own is no character; another one stands in for it. -/
def ofCodeUnit (unit : Nat) : Char := if isSurrogate unit then '\ufffd' else Char.ofNat unit

def ofSurrogates (high low : Nat) : Char :=
  Char.ofNat (0x10000 + (high - 0xd800) * 1024 + (low - 0xdc00))

/-- The character that an escape denotes, from the text behind its backslash, and the number of
characters of that text it takes. -/
def unescape (opening : List Char) : List Char → Except Fault (Char × Nat)
  | [] => .error ⟨.unterminatedString, opening⟩
  | 'u' :: rest =>
    match codeUnit? rest with
    | none => .error ⟨.invalidUnicodeEscape, 'u' :: rest⟩
    | some unit =>
      match isHighSurrogate unit && 10 < rest.length, rest.drop 4 with
      | true, '\\' :: 'u' :: more =>
        match codeUnit? more with
        | none => .error ⟨.invalidUnicodeEscape, 'u' :: more⟩
        | some low =>
          if isLowSurrogate low then .ok (ofSurrogates unit low, 11)
          else .ok (ofCodeUnit unit, 5)
      | _, _ => .ok (ofCodeUnit unit, 5)
  | c :: rest =>
    match shortEscape? c with
    | some d => .ok (d, 1)
    | none => .error ⟨.invalidEscape, '\\' :: c :: rest⟩

/-- The text of a string and what follows its closing quote. `skip` counts the characters of the
escape just read that still have to be passed over. -/
def readStringFrom (opening : List Char) (skip : Nat) :
    List Char → Except Fault (List Char × List Char)
  | [] => .error ⟨.unterminatedString, opening⟩
  | c :: rest =>
    match skip with
    | skip + 1 => readStringFrom opening skip rest
    | 0 =>
      if c = '\x22' then .ok ([], rest)
      else if c = '\\' then
        match unescape opening rest with
        | .error fault => .error fault
        | .ok (d, skip) =>
          match readStringFrom opening skip rest with
          | .error fault => .error fault
          | .ok (text, rest) => .ok (d :: text, rest)
      else if c.toNat < 0x20 then .error ⟨.controlCharacter, c :: rest⟩
      else
        match readStringFrom opening 0 rest with
        | .error fault => .error fault
        | .ok (text, rest) => .ok (c :: text, rest)

/-- A string from behind its opening quote on. -/
def readString (rest : List Char) : Except Fault (String × List Char) :=
  match readStringFrom ('\x22' :: rest) 0 rest with
  | .error fault => .error fault
  | .ok (text, rest) => .ok (String.ofList text, rest)

def isDigit (c : Char) : Bool := '0' ≤ c && c ≤ '9'

def digitsValue (digits : List Char) : Nat :=
  digits.foldl (fun n c => 10 * n + (c.toNat - '0'.toNat)) 0

/-- The digits of the part before the point: a lone zero, or a run that starts otherwise. -/
def readWhole : List Char → Option (List Char × List Char)
  | '0' :: rest => some (['0'], rest)
  | c :: rest =>
    if isDigit c then some (c :: rest.takeWhile isDigit, rest.dropWhile isDigit) else none
  | [] => none

/-- The digits after a point; a point without digits is not part of the number. -/
def readFraction : List Char → Option (List Char × List Char)
  | '.' :: rest =>
    match rest.takeWhile isDigit with
    | [] => none
    | digits => some (digits, rest.dropWhile isDigit)
  | _ => none

def readSign : List Char → Bool × List Char
  | '-' :: rest => (true, rest)
  | '+' :: rest => (false, rest)
  | rest => (false, rest)

/-- The power of ten behind a letter `e`; a letter without digits is not part of the number. -/
def readExponent : List Char → Option (Int × List Char)
  | c :: rest =>
    if c = 'e' ∨ c = 'E' then
      let (negative, rest) := readSign rest
      match rest.takeWhile isDigit with
      | [] => none
      | digits =>
        let n : Int := digitsValue digits
        some (if negative then -n else n, rest.dropWhile isDigit)
    else none
  | [] => none

/-- A number without fraction and exponent is whole, however long. -/
def readNumber (s : List Char) : Option (Json × List Char) :=
  let (negative, unsigned) := match s with
    | '-' :: rest => (true, rest)
    | _ => (false, s)
  match readWhole unsigned with
  | none => none
  | some (whole, afterWhole) =>
    let (fraction, afterFraction) := (readFraction afterWhole).getD ([], afterWhole)
    match readExponent afterFraction with
    | some (exponent, rest) =>
      some (.float (Decimal.nearestFloat negative (digitsValue (whole ++ fraction))
        (exponent - fraction.length)), rest)
    | none =>
      if fraction.isEmpty then
        let n : Int := digitsValue whole
        some (.int (if negative then -n else n), afterFraction)
      else
        some (.float (Decimal.nearestFloat negative (digitsValue (whole ++ fraction))
          (-(fraction.length : Int))), afterFraction)

def infinity : Float := Float.ofBits 0x7ff0000000000000

def negativeInfinity : Float := Float.ofBits 0xfff0000000000000

def notANumber : Float := Float.ofBits 0x7ff8000000000000

/-- The values that are written as words. -/
def words : List (List Char × Json) :=
  [("null".toList, .null), ("true".toList, .bool true), ("false".toList, .bool false),
    ("NaN".toList, .float notANumber), ("Infinity".toList, .float infinity),
    ("-Infinity".toList, .float negativeInfinity)]

def readWord (s : List Char) : Option (Json × List Char) :=
  (words.find? fun word => word.1.isPrefixOf s).map fun word => (word.2, s.drop word.1.length)

/-- A value that is neither a string nor a container. -/
def readScalar (s : List Char) : Except Fault (Json × List Char) :=
  match readWord s with
  | some result => .ok result
  | none =>
    match readNumber s with
    | some result => .ok result
    | none => .error ⟨.expectedValue, s⟩

mutual
/-- A value at the front of the text. Every value takes a character, and an item or a member is
tried at most once at each place, so twice the length of the text is fuel enough. -/
def readValue (fuel : Nat) (s : List Char) : Except Fault (Json × List Char) :=
  match fuel with
  | 0 => .error ⟨.expectedValue, s⟩
  | fuel + 1 =>
    match s with
    | '\x22' :: rest =>
      match readString rest with
      | .error fault => .error fault
      | .ok (text, rest) => .ok (.str text, rest)
    | '[' :: rest =>
      match skipSpace rest with
      | ']' :: rest => .ok (.arr [], rest)
      | inner =>
        match readItems fuel inner with
        | .error fault => .error fault
        | .ok (items, rest) => .ok (.arr items, rest)
    | '{' :: rest =>
      match skipSpace rest with
      | '}' :: rest => .ok (.obj [], rest)
      | inner =>
        match readMembers fuel inner with
        | .error fault => .error fault
        | .ok (members, rest) => .ok (.obj (Fields.ofList members), rest)
    | _ => readScalar s

/-- The items of a list up to its closing bracket. -/
def readItems (fuel : Nat) (s : List Char) : Except Fault (List Json × List Char) :=
  match fuel with
  | 0 => .error ⟨.expectedValue, s⟩
  | fuel + 1 =>
    match readValue fuel s with
    | .error fault => .error fault
    | .ok (v, rest) =>
      match skipSpace rest with
      | ']' :: rest => .ok ([v], rest)
      | ',' :: rest =>
        match readItems fuel (skipSpace rest) with
        | .error fault => .error fault
        | .ok (items, rest) => .ok (v :: items, rest)
      | other => .error ⟨.expectedComma, other⟩

/-- The members of an object up to its closing brace. -/
def readMembers (fuel : Nat) (s : List Char) :
    Except Fault (List (String × Json) × List Char) :=
  match fuel with
  | 0 => .error ⟨.expectedName, s⟩
  | fuel + 1 =>
    match s with
    | '\x22' :: rest =>
      match readString rest with
      | .error fault => .error fault
      | .ok (name, rest) =>
        match skipSpace rest with
        | ':' :: rest =>
          match readValue fuel (skipSpace rest) with
          | .error fault => .error fault
          | .ok (v, rest) =>
            match skipSpace rest with
            | '}' :: rest => .ok ([(name, v)], rest)
            | ',' :: rest =>
              match readMembers fuel (skipSpace rest) with
              | .error fault => .error fault
              | .ok (members, rest) => .ok ((name, v) :: members, rest)
            | other => .error ⟨.expectedComma, other⟩
        | other => .error ⟨.expectedColon, other⟩
    | other => .error ⟨.expectedName, other⟩
end

/-- One value with nothing but space around it. -/
def readText (s : List Char) : Except Fault Json :=
  match s with
  | '\ufeff' :: _ => .error ⟨.byteOrderMark, s⟩
  | _ =>
    match readValue (2 * s.length + 2) (skipSpace s) with
    | .error fault => .error fault
    | .ok (v, rest) =>
      match skipSpace rest with
      | [] => .ok v
      | extra => .error ⟨.extraData, extra⟩

def parse (text : String) : Except SyntaxError Json :=
  match readText text.toList with
  | .error fault => .error (fault.located text.toList)
  | .ok v => .ok v

end SlateMark.Json

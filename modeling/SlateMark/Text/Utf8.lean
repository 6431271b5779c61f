import SlateMark.Text.Hex

/-!
Bytes to text. A sequence of one to four bytes encodes a character; overlong forms, surrogates and
numbers beyond the last code point are refused at the first byte that cannot stand where it does.
A refusal names the bytes it covers, counted from the start of the input.
-/
namespace SlateMark.Text

inductive Utf8Problem where
  | invalidStart
  | invalidContinuation
  | unexpectedEnd
  deriving DecidableEq, Repr

/-- The problem, the index of the first byte at fault, and the bytes covered. -/
structure Utf8Error where
  problem : Utf8Problem
  position : Nat
  bytes : List UInt8
  deriving DecidableEq, Repr

def Utf8Problem.message : Utf8Problem → String
  | .invalidStart => "invalid start byte"
  | .invalidContinuation => "invalid continuation byte"
  | .unexpectedEnd => "unexpected end of data"

def Utf8Error.message (e : Utf8Error) : String :=
  let place := match e.bytes with
    | [b] => s!"byte 0x{String.ofList (hex 2 b.toNat)} in position {e.position}"
    | bytes => s!"bytes in position {e.position}-{e.position + bytes.length - 1}"
  s!"'utf-8' codec can't decode {place}: {e.problem.message}"

def isContinuation (b : UInt8) : Bool := 0x80 ≤ b && b ≤ 0xbf

/-- The bytes that may follow a first byte; the limits exclude overlong forms, surrogates and
numbers above the last code point. -/
def mayFollow (first second : UInt8) : Bool :=
  isContinuation second &&
    if first = 0xe0 then 0xa0 ≤ second
    else if first = 0xed then second < 0xa0
    else if first = 0xf0 then 0x90 ≤ second
    else if first = 0xf4 then second < 0x90
    else true

/-- How many bytes the sequence that starts with this byte has; none for a byte that starts none. -/
def sequenceLength? (b : UInt8) : Option Nat :=
  if b < 0x80 then some 1
  else if b < 0xc2 then none
  else if b < 0xe0 then some 2
  else if b < 0xf0 then some 3
  else if b < 0xf5 then some 4
  else none

def lowBits (b : UInt8) : Nat := b.toNat % 64

/-- The character at the front of the bytes, the number of bytes it takes beyond the first, or what
is wrong with the bytes at the front. -/
def decodeChar (first : UInt8) (rest : List UInt8) :
    Except (Utf8Problem × List UInt8) (Char × Nat) :=
  match sequenceLength? first, rest with
  | none, _ => .error (.invalidStart, [first])
  | some 1, _ => .ok (Char.ofNat first.toNat, 0)
  | some _, [] => .error (.unexpectedEnd, [first])
  | some 2, b :: _ =>
    if mayFollow first b then .ok (Char.ofNat (first.toNat % 32 * 64 + lowBits b), 1)
    else .error (.invalidContinuation, [first])
  | some n, b :: more =>
    if mayFollow first b then
      match more with
      | [] => .error (.unexpectedEnd, [first, b])
      | c :: more =>
        if isContinuation c then
          if n = 3 then
            .ok (Char.ofNat ((first.toNat % 16 * 64 + lowBits b) * 64 + lowBits c), 2)
          else
            match more with
            | [] => .error (.unexpectedEnd, [first, b, c])
            | d :: _ =>
              if isContinuation d then
                .ok (Char.ofNat
                  (((first.toNat % 8 * 64 + lowBits b) * 64 + lowBits c) * 64 + lowBits d), 3)
              else .error (.invalidContinuation, [first, b, c])
        else .error (.invalidContinuation, [first, b])
    else .error (.invalidContinuation, [first])

/-- `skip` counts the bytes of the character just read that still have to be passed over. -/
def decodeUtf8From (position skip : Nat) : List UInt8 → Except Utf8Error (List Char)
  | [] => .ok []
  | b :: rest =>
    match skip with
    | skip + 1 => decodeUtf8From (position + 1) skip rest
    | 0 =>
      match decodeChar b rest with
      | .error (problem, bytes) => .error ⟨problem, position, bytes⟩
      | .ok (c, skip) =>
        match decodeUtf8From (position + 1) skip rest with
        | .error e => .error e
        | .ok text => .ok (c :: text)

def decodeUtf8 (bytes : List UInt8) : Except Utf8Error (List Char) := decodeUtf8From 0 0 bytes

def encodeUtf8 (s : String) : List UInt8 := s.toUTF8.data.toList

/-- One line feed for each of the three line ends, which is how text files are read. -/
def unifyNewlines : List Char → List Char
  | '\r' :: '\n' :: rest => '\n' :: unifyNewlines rest
  | '\r' :: rest => '\n' :: unifyNewlines rest
  | c :: rest => c :: unifyNewlines rest
  | [] => []

end SlateMark.Text

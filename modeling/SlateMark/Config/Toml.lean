import SlateMark.Config.Moment
import SlateMark.Json.Reader

/-!
TOML documents as tables. Every scanner takes what it recognises from the front of the text and
returns the rest, or nothing if the text is not well formed. Tables may be written in pieces, but
none may be opened twice, and inline tables and lists written as values are closed for good.
-/
namespace SlateMark.Toml

/-- What stands under a name. -/
inductive Item where
  | bool (value : Bool)
  | int (value : Int)
  | float (value : Float)
  | str (value : String)
  | moment (value : Moment)
  | arr (items : List Item)
  | table (members : List (String × Item))

abbrev Table := Named Item

mutual
def Item.toValue : Item → Value
  | .bool b => .bool b
  | .int n => .int n
  | .float x => .float x
  | .str s => .str s
  | .moment m => .foreign m.foreign
  | .arr items => .list (valuesOf items)
  | .table members => .mapping (entriesOf members)

def valuesOf : List Item → List Value
  | [] => []
  | v :: rest => v.toValue :: valuesOf rest

def entriesOf : List (String × Item) → Entries
  | [] => []
  | (name, v) :: rest => (.str name, v.toValue) :: entriesOf rest
end

def isSpace (c : Char) : Bool := c = ' ' || c = '\t'

def skipSpace (s : List Char) : List Char := s.dropWhile isSpace

/-- Controls other than the tab may stand nowhere. -/
def isControl (c : Char) : Bool := (c.toNat < 0x20 && c ≠ '\t') || c.toNat = 0x7f

/-- A comment reaches to the end of the line. -/
def skipComment (s : List Char) : Option (List Char) :=
  match s with
  | '#' :: rest =>
    if (rest.takeWhile (· ≠ '\n')).any isControl then none else some (rest.dropWhile (· ≠ '\n'))
  | _ => some s

def isBareKeyChar (c : Char) : Bool :=
  ('a' ≤ c && c ≤ 'z') || ('A' ≤ c && c ≤ 'Z') || ('0' ≤ c && c ≤ '9') || c = '-' || c = '_'

/-- The text of an escape and the number of characters behind the backslash that it takes. In a text
of several lines a backslash at the end of a line removes the blanks that follow. -/
def unescape (multiline : Bool) : List Char → Option (List Char × Nat)
  | 'b' :: _ => some (['\x08'], 1)
  | 't' :: _ => some (['\t'], 1)
  | 'n' :: _ => some (['\n'], 1)
  | 'f' :: _ => some (['\x0c'], 1)
  | 'r' :: _ => some (['\r'], 1)
  | '\x22' :: _ => some (['\x22'], 1)
  | '\\' :: _ => some (['\\'], 1)
  | 'u' :: rest => (unicode 4 rest).map fun c => ([c], 5)
  | 'U' :: rest => (unicode 8 rest).map fun c => ([c], 9)
  | rest =>
    if multiline then
      match rest.dropWhile isSpace with
      | '\n' :: below =>
        let next := below.dropWhile fun c => isSpace c || c = '\n'
        some ([], rest.length - next.length)
      | _ => none
    else none
where
  unicode (count : Nat) (s : List Char) : Option Char :=
    if s.length < count then none
    else
      match Text.hexFrom? 0 (s.take count) with
      | some n => if h : n.isValidChar then some (Char.ofNatAux n h) else none
      | none => none

/-- The text up to the closing quote or quotes, and what follows them. `skip` counts the characters
of the escape just read that still have to be passed over. -/
def readBasicFrom (multiline : Bool) (skip : Nat) : List Char → Option (List Char × List Char)
  | [] => none
  | c :: rest =>
    match skip with
    | skip + 1 => readBasicFrom multiline skip rest
    | 0 =>
      if c = '\x22' then
        if multiline then
          match rest with
          | '\x22' :: '\x22' :: rest => some ([], rest)
          | _ => (readBasicFrom multiline 0 rest).map fun (text, rest) => (c :: text, rest)
        else some ([], rest)
      else if c = '\\' then
        match unescape multiline rest with
        | none => none
        | some (text, skip) =>
          (readBasicFrom multiline skip rest).map fun (more, rest) => (text ++ more, rest)
      else if isControl c && !(multiline && c = '\n') then none
      else (readBasicFrom multiline 0 rest).map fun (text, rest) => (c :: text, rest)

/-- The same for text in apostrophes, which has no escapes. -/
def readLiteralFrom (multiline : Bool) : List Char → Option (List Char × List Char)
  | [] => none
  | c :: rest =>
    if c = '\x27' then
      if multiline then
        match rest with
        | '\x27' :: '\x27' :: rest => some ([], rest)
        | _ => (readLiteralFrom multiline rest).map fun (text, rest) => (c :: text, rest)
      else some ([], rest)
    else if isControl c && !(multiline && c = '\n') then none
    else (readLiteralFrom multiline rest).map fun (text, rest) => (c :: text, rest)

/-- One or two quotes right before the closing three belong to the text. -/
def extraQuotes (quote : Char) (text rest : List Char) : Option (String × List Char) :=
  match rest with
  | a :: b :: more =>
    if a = quote then
      if b = quote then some (String.ofList (text ++ [quote, quote]), more)
      else some (String.ofList (text ++ [quote]), b :: more)
    else some (String.ofList text, rest)
  | [a] =>
    if a = quote then some (String.ofList (text ++ [quote]), [])
    else some (String.ofList text, rest)
  | [] => some (String.ofList text, [])

/-- A line end right behind the opening quotes is not part of the text. -/
def skipLineEnd : List Char → List Char
  | '\n' :: rest => rest
  | rest => rest

def readBasic (rest : List Char) : Option (String × List Char) :=
  (readBasicFrom false 0 rest).map fun (text, rest) => (String.ofList text, rest)

def readLiteral (rest : List Char) : Option (String × List Char) :=
  (readLiteralFrom false rest).map fun (text, rest) => (String.ofList text, rest)

def readString : List Char → Option (String × List Char)
  | '\x22' :: '\x22' :: '\x22' :: rest => do
    let (text, rest) ← readBasicFrom true 0 (skipLineEnd rest)
    extraQuotes '\x22' text rest
  | '\x22' :: rest => readBasic rest
  | '\x27' :: '\x27' :: '\x27' :: rest => do
    let (text, rest) ← readLiteralFrom true (skipLineEnd rest)
    extraQuotes '\x27' text rest
  | '\x27' :: rest => readLiteral rest
  | _ => none

def readKeyPart (s : List Char) : Option (String × List Char) :=
  match s with
  | '\x22' :: rest => readBasic rest
  | '\x27' :: rest => readLiteral rest
  | _ =>
    match s.takeWhile isBareKeyChar with
    | [] => none
    | name => some (String.ofList name, s.dropWhile isBareKeyChar)

/-- A key in its parts, which are separated by dots; every part takes a character. -/
def readKeyFrom : Nat → List Char → Option (List String × List Char)
  | 0, _ => none
  | fuel + 1, s => do
    let (part, rest) ← readKeyPart s
    match skipSpace rest with
    | '.' :: rest => do
      let (more, rest) ← readKeyFrom fuel (skipSpace rest)
      return (part :: more, rest)
    | rest => return ([part], rest)

def readKey (s : List Char) : Option (List String × List Char) := readKeyFrom (s.length + 1) s

/-- Digits with single underscores between them. -/
def readDigitsAfter (isDigit : Char → Bool) : List Char → List Char × List Char
  | '_' :: c :: rest =>
    if isDigit c then
      let (digits, rest) := readDigitsAfter isDigit rest
      (c :: digits, rest)
    else ([], '_' :: c :: rest)
  | c :: rest =>
    if isDigit c then
      let (digits, rest) := readDigitsAfter isDigit rest
      (c :: digits, rest)
    else ([], c :: rest)
  | [] => ([], [])

def readDigits (isDigit : Char → Bool) : List Char → Option (List Char × List Char)
  | c :: rest =>
    if isDigit c then
      let (digits, rest) := readDigitsAfter isDigit rest
      some (c :: digits, rest)
    else none
  | [] => none

/-- Digits behind a letter that tells their base. -/
def readBased (base : Nat) (s : List Char) : Option (Item × List Char) :=
  let isDigit (c : Char) : Bool := (Text.hexDigit? c).any (· < base)
  (readDigits isDigit s).map fun (digits, rest) =>
    (.int (digits.foldl (fun n c => base * n + ((Text.hexDigit? c).getD 0)) 0 : Nat), rest)

def readFraction : List Char → Option (List Char × List Char)
  | '.' :: rest => readDigits Json.isDigit rest
  | _ => none

def readExponent : List Char → Option (Int × List Char)
  | c :: rest =>
    if c = 'e' ∨ c = 'E' then
      let (negative, rest) := Json.readSign rest
      (readDigits Json.isDigit rest).map fun (digits, rest) =>
        let n : Int := Json.digitsValue digits
        (if negative then -n else n, rest)
    else none
  | [] => none

/-- Numbers without fraction and exponent are whole. -/
def readDecimal (s : List Char) : Option (Item × List Char) := do
  let (negative, unsigned) := Json.readSign s
  let (whole, afterWhole) ← match unsigned with
    | '0' :: rest => some (['0'], rest)
    | _ => readDigits Json.isDigit unsigned
  let (fraction, afterFraction) := (readFraction afterWhole).getD ([], afterWhole)
  match readExponent afterFraction with
  | some (exponent, rest) =>
    return (.float (Decimal.nearestFloat negative (Json.digitsValue (whole ++ fraction))
      (exponent - fraction.length)), rest)
  | none =>
    if fraction.isEmpty then
      let n : Int := Json.digitsValue whole
      return (.int (if negative then -n else n), afterFraction)
    else
      return (.float (Decimal.nearestFloat negative (Json.digitsValue (whole ++ fraction))
        (-(fraction.length : Int))), afterFraction)

def words : List (List Char × Item) :=
  [("true".toList, .bool true), ("false".toList, .bool false), ("inf".toList, .float Json.infinity),
    ("+inf".toList, .float Json.infinity), ("-inf".toList, .float Json.negativeInfinity),
    ("nan".toList, .float Json.notANumber), ("+nan".toList, .float Json.notANumber),
    ("-nan".toList, .float Json.notANumber)]

def readWord (s : List Char) : Option (Item × List Char) :=
  (words.find? fun word => word.1.isPrefixOf s).map fun word => (word.2, s.drop word.1.length)

/-! Dates and times. -/

/-- A number of so many digits, within limits. -/
def readField (width least most : Nat) (s : List Char) : Option (Nat × List Char) :=
  let digits := s.take width
  let n := Json.digitsValue digits
  if digits.length = width && digits.all Json.isDigit && least ≤ n && n ≤ most then
    some (n, s.drop width)
  else none

def readMark (mark : Char) : List Char → Option (List Char)
  | c :: rest => if c = mark then some rest else none
  | [] => none

def readDate (s : List Char) : Option (Date × List Char) := do
  let (year, s) ← readField 4 1 9999 s
  let (month, s) ← readField 2 1 12 (← readMark '-' s)
  let (day, s) ← readField 2 1 31 (← readMark '-' s)
  if h : 1 ≤ day ∧ day ≤ daysInMonth year month then return (⟨year, month, day, h⟩, s) else none

/-- Of a fraction of a second six digits count. -/
def readMicrosecond (s : List Char) : Nat × List Char :=
  match s with
  | '.' :: rest =>
    match rest.takeWhile Json.isDigit with
    | [] => (0, s)
    | digits =>
      (Json.digitsValue ((digits ++ List.replicate 6 '0').take 6), rest.dropWhile Json.isDigit)
  | _ => (0, s)

/-- Hours and minutes. -/
def readClock (s : List Char) : Option ((Nat × Nat) × List Char) := do
  let (hour, s) ← readField 2 0 23 s
  let (minute, s) ← readField 2 0 59 (← readMark ':' s)
  return ((hour, minute), s)

def readTime (s : List Char) : Option (Time × List Char) := do
  let ((hour, minute), s) ← readClock s
  let (second, s) ← readField 2 0 59 (← readMark ':' s)
  let (microsecond, s) := readMicrosecond s
  return (⟨hour, minute, second, microsecond⟩, s)

/-- The time behind a date. -/
def readTimeOfDate (s : List Char) : Option (Time × List Char) :=
  match s with
  | c :: rest => if c = 'T' || c = 't' || c = ' ' then readTime rest else none
  | [] => none

def readOffset (s : List Char) : Option Int × List Char :=
  match s with
  | [] => (none, s)
  | c :: rest =>
    if c = 'Z' || c = 'z' then (some 0, rest)
    else if c = '+' || c = '-' then
      match readClock rest with
      | some ((hour, minute), rest) =>
        let minutes : Int := 60 * hour + minute
        (some (if c = '-' then -minutes else minutes), rest)
      | none => (none, s)
    else (none, s)

/-- A date, which a time may follow, or a time. -/
def readMoment (s : List Char) : Option (Moment × List Char) :=
  match readDate s with
  | none => (readTime s).map fun (time, rest) => (.time time, rest)
  | some (date, rest) =>
    match readTimeOfDate rest with
    | none => some (.date date, rest)
    | some (time, rest) =>
      let (offset, rest) := readOffset rest
      some (.dateTime date time offset, rest)

def readScalar (s : List Char) : Option (Item × List Char) :=
  match readWord s, readMoment s, s with
  | some result, _, _ => some result
  | none, some (moment, rest), _ => some (.moment moment, rest)
  | none, none, '0' :: 'x' :: rest => readBased 16 rest
  | none, none, '0' :: 'o' :: rest => readBased 8 rest
  | none, none, '0' :: 'b' :: rest => readBased 2 rest
  | none, none, _ => readDecimal s

/-- Blanks, line ends and comments between the items of a list. -/
def skipFiller : Nat → List Char → Option (List Char)
  | 0, s => some s
  | fuel + 1, s =>
    match s.dropWhile fun c => isSpace c || c = '\n' with
    | '#' :: rest => do skipFiller fuel (← skipComment ('#' :: rest))
    | rest => some rest

/-- Changes the table at the end of a key, made where it is missing. Of a list of tables the last
one counts, if `throughLists` allows it. -/
def updateTable (throughLists : Bool) (change : Table → Option Table) :
    List String → Table → Option Table
  | [], table => change table
  | part :: rest, table =>
    match Fields.get? table part with
    | none => do
      let inner ← updateTable throughLists change rest []
      return Fields.set part (.table inner) table
    | some (.table inner) => do
      let inner ← updateTable throughLists change rest inner
      return Fields.set part (.table inner) table
    | some (.arr items) =>
      match throughLists, items.getLast? with
      | true, some (.table inner) => do
        let inner ← updateTable throughLists change rest inner
        return Fields.set part (.arr (items.dropLast ++ [.table inner])) table
      | _, _ => none
    | some _ => none

/-- Gives a name that is still free a value. -/
def addNew (name : String) (v : Item) (table : Table) : Option Table :=
  if Fields.has table name then none else some (Fields.set name v table)

def isContainer : Item → Bool
  | .arr _ => true
  | .table _ => true
  | _ => false

mutual
/-- Each value takes a character, and an item or a member is tried once at each place. -/
def readValue : Nat → List Char → Option (Item × List Char)
  | 0, _ => none
  | fuel + 1, s =>
    match s with
    | '\x22' :: _ => (readString s).map fun (text, rest) => (.str text, rest)
    | '\x27' :: _ => (readString s).map fun (text, rest) => (.str text, rest)
    | '[' :: rest => do
      match ← skipFiller (rest.length + 1) rest with
      | ']' :: rest => return (.arr [], rest)
      | inner =>
        let (items, rest) ← readItems fuel inner
        return (.arr items, rest)
    | '{' :: rest =>
      match skipSpace rest with
      | '}' :: rest => some (.table [], rest)
      | inner => do
        let (table, rest) ← readInline fuel [] [] inner
        return (.table table, rest)
    | _ => readScalar s

def readItems : Nat → List Char → Option (List Item × List Char)
  | 0, _ => none
  | fuel + 1, s => do
    let (v, rest) ← readValue fuel s
    match ← skipFiller (rest.length + 1) rest with
    | ']' :: rest => return ([v], rest)
    | ',' :: rest =>
      match ← skipFiller (rest.length + 1) rest with
      | ']' :: rest => return ([v], rest)
      | next => do
        let (items, rest) ← readItems fuel next
        return (v :: items, rest)
    | _ => none

/-- The members of an inline table, added to those read before; keys in `closed` and keys that go
on from them are taken. -/
def readInline : Nat → List (List String) → Table → List Char → Option (Table × List Char)
  | 0, _, _, _ => none
  | fuel + 1, closed, table, s => do
    let (key, rest) ← readKey s
    match rest with
    | '=' :: rest => do
      let (v, rest) ← readValue fuel (skipSpace rest)
      if closed.any (·.isPrefixOf key) then none
      else
        let table ← updateTable false (addNew (key.getLast?.getD "") v) key.dropLast table
        let closed := if isContainer v then key :: closed else closed
        match skipSpace rest with
        | '}' :: rest => return (table, rest)
        | ',' :: rest => readInline fuel closed table (skipSpace rest)
        | _ => none
    | _ => none
end

/-- A document as far as it is read. Tables in `opened` may not be opened again; tables in `pending`
join them at the next header; tables in `closed`, and all inside them, may not be changed. -/
structure Document where
  data : Table
  header : List String
  opened : List (List String)
  pending : List (List String)
  closed : List (List String)

namespace Document

def isClosed (d : Document) (key : List String) : Bool :=
  key ≠ [] && d.closed.any (·.isPrefixOf key)

/-- The tables that a dotted key passes through, from the outermost. -/
def passed (header key : List String) : List (List String) :=
  (List.range (key.length - 1)).map fun i => header ++ key.take (i + 1)

def addMember (d : Document) (key : List String) (v : Item) : Option Document :=
  let through := passed d.header key
  let parent := d.header ++ key.dropLast
  if through.any d.opened.contains || d.isClosed parent then none
  else do
    let data ← updateTable true (addNew (key.getLast?.getD "") v) parent d.data
    return { d with
      data
      pending := through ++ d.pending
      closed := if isContainer v then (d.header ++ key) :: d.closed else d.closed }

def openPending (d : Document) : Document :=
  { d with opened := d.pending ++ d.opened, pending := [] }

def openTable (d : Document) (key : List String) : Option Document :=
  if d.opened.contains key || d.isClosed key then none
  else do
    let data ← updateTable true some key d.data
    return { d with data, header := key, opened := key :: d.opened }

/-- The last item of a list of tables makes way for the next, with all that was opened in it. -/
def appendTable (d : Document) (key : List String) : Option Document :=
  if d.isClosed key then none
  else do
    let opened := d.opened.filter fun other => !key.isPrefixOf other
    let closed := d.closed.filter fun other => !key.isPrefixOf other
    let data ← updateTable true (append (key.getLast?.getD "")) key.dropLast d.data
    return { d with data, header := key, opened := key :: opened, closed }
where
  append (name : String) (table : Table) : Option Table :=
    match Fields.get? table name with
    | none => some (Fields.set name (.arr [.table []]) table)
    | some (.arr items) => some (Fields.set name (.arr (items ++ [.table []])) table)
    | some _ => none

def readHeader (d : Document) (s : List Char) : Option (Document × List Char) :=
  match s with
  | '[' :: rest => do
    let (key, rest) ← readKey (skipSpace rest)
    let d ← d.openPending.appendTable key
    match rest with
    | ']' :: ']' :: rest => return (d, rest)
    | _ => none
  | rest => do
    let (key, rest) ← readKey (skipSpace rest)
    let d ← d.openPending.openTable key
    match rest with
    | ']' :: rest => return (d, rest)
    | _ => none

def readMember (d : Document) (s : List Char) : Option (Document × List Char) := do
  let (key, rest) ← readKey s
  match rest with
  | '=' :: rest => do
    let rest := skipSpace rest
    let (v, rest) ← readValue (2 * rest.length + 2) rest
    return (← d.addMember key v, rest)
  | _ => none

/-- A line may hold a header, a member, or neither. -/
def readStatement (d : Document) (s : List Char) : Option (Document × List Char) :=
  match s with
  | [] => some (d, [])
  | '\n' :: _ => some (d, s)
  | '#' :: _ => some (d, s)
  | '[' :: rest => d.readHeader rest
  | _ => d.readMember s

def readLines : Nat → Document → List Char → Option Document
  | 0, d, _ => some d
  | fuel + 1, d, s => do
    let (d, rest) ← d.readStatement (skipSpace s)
    match ← skipComment (skipSpace rest) with
    | [] => return d
    | '\n' :: rest => readLines fuel d rest
    | _ => none

end Document

def joinLineEnds : List Char → List Char
  | '\r' :: '\n' :: rest => '\n' :: joinLineEnds rest
  | c :: rest => c :: joinLineEnds rest
  | [] => []

/-- The members of a document; a document takes no more steps than it has lines. -/
def parse (text : List Char) : Option Table :=
  let s := joinLineEnds text
  (Document.readLines (s.length + 1) ⟨[], [], [], [], []⟩ s).map Document.data

end SlateMark.Toml

import SlateMark.Json.Display
import SlateMark.Json.Reader

/-!
YAML documents, version 1.1, as JSON values: block mappings and sequences, flow collections, plain
and quoted scalars, comments and document markers. Anchors, tags, block scalars and keys that are no
scalars are refused. A plain scalar is null, a truth value or a number if it looks like one.
-/
namespace SlateMark.Yaml

/-- A place in the text, with its line and column, and what follows it. -/
structure Cursor where
  rest : List Char
  line : Nat
  column : Nat
  deriving Repr

namespace Cursor

/-- Passes over characters of the same line. -/
def advance (c : Cursor) (count : Nat) : Cursor :=
  { c with rest := c.rest.drop count, column := c.column + count }

def isBlankOrEnd (s : List Char) : Bool :=
  match s with
  | [] => true
  | c :: _ => c = ' ' || c = '\t' || c = '\n'

/-- Passes over blanks, line ends and comments. -/
def skipFrom (inComment : Bool) (line column : Nat) : List Char → Cursor
  | [] => ⟨[], line, column⟩
  | c :: rest =>
    if c = '\n' then skipFrom false (line + 1) 0 rest
    else if inComment || c = ' ' then skipFrom inComment line (column + 1) rest
    else if c = '#' then skipFrom true line (column + 1) rest
    else ⟨c :: rest, line, column⟩

def skip (c : Cursor) : Cursor := skipFrom false c.line c.column c.rest

def skipSpaces (c : Cursor) : Cursor := c.advance (c.rest.takeWhile (· = ' ')).length

def isMarker (mark : Char) (c : Cursor) : Bool :=
  c.column = 0 && [mark, mark, mark].isPrefixOf c.rest && isBlankOrEnd (c.rest.drop 3)

/-- The end of the document: of the text, or a marker. -/
def atEnd (c : Cursor) : Bool := c.rest.isEmpty || c.isMarker '-' || c.isMarker '.'

/-- Whether an indicator stands here, which a blank has to follow. -/
def atIndicator (mark : Char) (c : Cursor) : Bool :=
  match c.rest with
  | d :: rest => d = mark && isBlankOrEnd rest
  | [] => false

end Cursor

/-- Digits of a base, with underscores anywhere. -/
def readBased? (base : Nat) (s : List Char) : Option Nat :=
  let isDigit (c : Char) : Bool := (Text.hexDigit? c).any (· < base)
  if s.isEmpty || !s.all fun c => isDigit c || c = '_' then none
  else some ((s.filter (· ≠ '_')).foldl (fun n c => base * n + (Text.hexDigit? c).getD 0) 0)

/-- Groups of digits between colons are the places of a number of base sixty. -/
def readSixties? (s : List Char) : Option Nat :=
  match s.splitOn ':' with
  | [] => none
  | [_] => none
  | first :: groups =>
    let isGroup (g : List Char) : Bool :=
      match g with
      | [a] => Json.isDigit a
      | [a, b] => '0' ≤ a && a ≤ '5' && Json.isDigit b
      | _ => false
    match first with
    | lead :: _ =>
      if '1' ≤ lead && lead ≤ '9' && first.all (fun c => Json.isDigit c || c = '_') &&
          groups.all isGroup then
        let digits (g : List Char) : Nat := Json.digitsValue (g.filter (· ≠ '_'))
        some (groups.foldl (fun n g => 60 * n + digits g) (digits first))
      else none
    | [] => none

def readNatural? (s : List Char) : Option Nat :=
  match s with
  | ['0'] => some 0
  | '0' :: 'b' :: rest => readBased? 2 rest
  | '0' :: 'x' :: rest => readBased? 16 rest
  | '0' :: rest => readBased? 8 rest
  | c :: rest =>
    if '1' ≤ c && c ≤ '9' && rest.all fun d => Json.isDigit d || d = '_' then
      some (Json.digitsValue (s.filter (· ≠ '_')))
    else readSixties? s
  | [] => none

/-- A number with a point; its exponent needs a sign. -/
def readFloat? (negative : Bool) (s : List Char) : Option Float :=
  let whole := s.takeWhile fun c => Json.isDigit c || c = '_'
  match s.dropWhile fun c => Json.isDigit c || c = '_' with
  | '.' :: afterPoint =>
    let fraction := afterPoint.takeWhile fun c => Json.isDigit c || c = '_'
    let wellFormed := match whole, fraction with
      | c :: _, _ => Json.isDigit c
      | [], c :: _ => Json.isDigit c
      | [], [] => false
    let digits := (whole ++ fraction).filter (· ≠ '_')
    let places : Int := (fraction.filter (· ≠ '_')).length
    if wellFormed then
      match afterPoint.dropWhile fun c => Json.isDigit c || c = '_' with
      | [] => some (Decimal.nearestFloat negative (Json.digitsValue digits) (-places))
      | e :: mark :: exponent =>
        if (e = 'e' || e = 'E') && (mark = '+' || mark = '-') && !exponent.isEmpty &&
            exponent.all Json.isDigit then
          let n : Int := Json.digitsValue exponent
          some (Decimal.nearestFloat negative (Json.digitsValue digits)
            ((if mark = '-' then -n else n) - places))
        else none
      | _ => none
    else none
  | _ => none

def words : List (String × Json) :=
  (["yes", "Yes", "YES", "true", "True", "TRUE", "on", "On", "ON"].map fun w => (w, .bool true)) ++
    (["no", "No", "NO", "false", "False", "FALSE", "off", "Off", "OFF"].map
      fun w => (w, .bool false)) ++
    (["", "~", "null", "Null", "NULL"].map fun w => (w, .null)) ++
    ([".inf", ".Inf", ".INF", "+.inf", "+.Inf", "+.INF"].map fun w => (w, .float Json.infinity)) ++
    (["-.inf", "-.Inf", "-.INF"].map fun w => (w, .float Json.negativeInfinity)) ++
    ([".nan", ".NaN", ".NAN"].map fun w => (w, .float Json.notANumber))

/-- The value of a plain scalar. -/
def resolve (s : List Char) : Json :=
  let text := String.ofList s
  let isSigned := match s with
    | '-' :: _ => true
    | '+' :: _ => true
    | _ => false
  let negative := s.head? = some '-'
  let unsigned := if isSigned then s.drop 1 else s
  match words.lookup text with
  | some v => v
  | none =>
    match readFloat? negative unsigned with
    | some x =>
      if isSigned && unsigned.head? = some '.' then .str text else .float x
    | none =>
      match readNatural? unsigned with
      | some n => .int (if negative then -(n : Int) else n)
      | none => .str text

def isFlowMark (c : Char) : Bool := ",[]\x7b\x7d".toList.contains c

/-- Whether a plain scalar ends before this character. -/
def endsWord (inFlow : Bool) (c : Char) (rest : List Char) : Bool :=
  c = ' ' || c = '\t' || c = '\n' ||
    (c = ':' && (Cursor.isBlankOrEnd rest || (inFlow && rest.head?.any isFlowMark))) ||
    (inFlow && (isFlowMark c || c = '?'))

def takeWord (inFlow : Bool) : List Char → List Char
  | [] => []
  | c :: rest => if endsWord inFlow c rest then [] else c :: takeWord inFlow rest

/-- Characters that begin something else than a plain scalar. -/
def isIndicator (c : Char) : Bool :=
  "-?:,[]\x7b\x7d#&*!|>\x27\x22%@\x60".toList.contains c

def startsPlain (inFlow : Bool) (s : List Char) : Bool :=
  match s with
  | [] => false
  | c :: rest =>
    if c = '\t' then false
    else !isIndicator c ||
      (!Cursor.isBlankOrEnd rest && (c = '-' || (!inFlow && (c = '?' || c = ':'))))

/-- One line end between words is a blank, and of more all but the first are kept. -/
def fold (lines : Nat) : List Char :=
  if lines = 1 then [' '] else List.replicate (lines - 1) '\n'

/-- Blank lines up to the next text: their number, and the place of the text. -/
def skipLines (lines line column : Nat) : List Char → Nat × Cursor
  | [] => (lines, ⟨[], line, column⟩)
  | c :: rest =>
    if c = '\n' then skipLines (lines + 1) (line + 1) 0 rest
    else if c = ' ' then skipLines lines line (column + 1) rest
    else (lines, ⟨c :: rest, line, column⟩)

/-- The words of a plain scalar. It goes on in lines that are indented enough. -/
def readPlain (inFlow : Bool) (indent : Nat) : Nat → Cursor → List Char × Cursor
  | 0, c => ([], c)
  | fuel + 1, c =>
    let word := takeWord inFlow c.rest
    let afterWord := c.advance word.length
    let (lines, next) := skipLines 0 afterWord.line afterWord.column afterWord.rest
    let gap :=
      if lines = 0 then List.replicate (next.column - afterWord.column) ' ' else fold lines
    let stops := gap.isEmpty || next.atEnd || next.rest.head? = some '#' ||
      (!inFlow && 0 < lines && next.column < indent) || (takeWord inFlow next.rest).isEmpty
    if stops then (word, afterWord)
    else
      let (more, last) := readPlain inFlow indent fuel next
      (word ++ gap ++ more, last)

/-- What one character behind a backslash stands for. -/
def shortEscapes : List (Char × Char) :=
  [('0', '\x00'), ('a', '\x07'), ('b', '\x08'), ('t', '\t'), ('\t', '\t'), ('n', '\n'),
    ('v', '\x0b'), ('f', '\x0c'), ('r', '\r'), ('e', '\x1b'), (' ', ' '), ('\x22', '\x22'),
    ('\\', '\\'), ('/', '/'), ('N', '\u0085'), ('_', '\u00a0'), ('L', '\u2028'),
    ('P', '\u2029')]

def numericEscape? (count : Nat) (s : List Char) : Option Char :=
  if s.length < count then none
  else (Text.hexFrom? 0 (s.take count)).bind fun n =>
    if h : n.isValidChar then some (Char.ofNatAux n h) else none

/-- Removes the blanks before a line end. -/
def dropBlanks (s : List Char) : List Char := (s.reverse.dropWhile (· = ' ')).reverse

/-- The text in quotes, from behind the opening one; `text` is what was read of it. -/
def readQuoted (mark : Char) (text : List Char) : Nat → Cursor → Option (List Char × Cursor)
  | 0, _ => none
  | fuel + 1, c =>
    match c.rest with
    | [] => none
    | d :: rest =>
      if d = mark then
        if mark = '\x27' && rest.head? = some mark then
          readQuoted mark (text ++ [mark]) fuel (c.advance 2)
        else some (text, c.advance 1)
      else if d = '\\' && mark = '\x22' then
        match rest with
        | 'x' :: more => numericEscape? 2 more >>= fun e =>
          readQuoted mark (text ++ [e]) fuel (c.advance 4)
        | 'u' :: more => numericEscape? 4 more >>= fun e =>
          readQuoted mark (text ++ [e]) fuel (c.advance 6)
        | 'U' :: more => numericEscape? 8 more >>= fun e =>
          readQuoted mark (text ++ [e]) fuel (c.advance 10)
        | '\n' :: more =>
          let (lines, next) := skipLines 0 (c.line + 1) 0 more
          readQuoted mark (text ++ List.replicate lines '\n') fuel next
        | e :: _ => shortEscapes.lookup e >>= fun f =>
          readQuoted mark (text ++ [f]) fuel (c.advance 2)
        | [] => none
      else if d = '\n' then
        let (lines, next) := skipLines 0 c.line c.column c.rest
        if next.atEnd then none else readQuoted mark (dropBlanks text ++ fold lines) fuel next
      else readQuoted mark (text ++ [d]) fuel (c.advance 1)

/-- The text of a scalar, which stands for it as a key. -/
def keyText? : Json → Option String
  | .arr _ => none
  | .obj _ => none
  | v => some v.plainText

mutual
/-- A scalar or a flow collection; `indent` is the least column of further lines. -/
def readFlow (inFlow : Bool) (indent : Nat) : Nat → Cursor → Option (Json × Cursor)
  | 0, _ => none
  | fuel + 1, c =>
    match c.rest with
    | '[' :: _ => readFlowItems fuel (c.advance 1).skip
    | '{' :: _ => (readFlowMembers fuel [] (c.advance 1).skip).map fun (fields, c) =>
      (.obj fields, c)
    | d :: rest =>
      if d = '\x22' || d = '\x27' then
        (readQuoted d [] (rest.length + 1) (c.advance 1)).map fun (text, c) =>
          (.str (String.ofList text), c)
      else if startsPlain inFlow c.rest then
        let (text, last) := readPlain inFlow indent c.rest.length c
        some (resolve text, last)
      else none
    | [] => none

/-- The items of a flow sequence; a pair among them is a mapping of its own. -/
def readFlowItems : Nat → Cursor → Option (Json × Cursor)
  | 0, _ => none
  | fuel + 1, c =>
    match c.rest with
    | ']' :: _ => some (.arr [], c.advance 1)
    | _ => do
      let (v, c) ← readFlow true 0 fuel c
      let (v, c) ← match c.skip.rest with
        | ':' :: _ => do
          let key ← keyText? v
          let (inner, c) ← readFlowValue fuel (c.skip.advance 1).skip
          pure (.obj [(key, inner)], c)
        | _ => pure (v, c.skip)
      match c.rest with
      | ']' :: _ => return (.arr [v], c.advance 1)
      | ',' :: _ =>
        match ← readFlowItems fuel (c.advance 1).skip with
        | (.arr items, c) => return (.arr (v :: items), c)
        | _ => none
      | _ => none

/-- The value of a pair in a flow collection, null if there is none. -/
def readFlowValue : Nat → Cursor → Option (Json × Cursor)
  | 0, _ => none
  | fuel + 1, c =>
    match c.rest with
    | ',' :: _ => some (.null, c)
    | ']' :: _ => some (.null, c)
    | '}' :: _ => some (.null, c)
    | _ => (readFlow true 0 fuel c).map fun (v, c) => (v, c.skip)

/-- The members of a flow mapping, added to those read before. -/
def readFlowMembers : Nat → Fields → Cursor → Option (Fields × Cursor)
  | 0, _, _ => none
  | fuel + 1, fields, c =>
    match c.rest with
    | '}' :: _ => some (fields, c.advance 1)
    | _ => do
      let (v, c) ← readFlow true 0 fuel c
      let key ← keyText? v
      let (inner, c) ← match c.skip.rest with
        | ':' :: _ => readFlowValue fuel (c.skip.advance 1).skip
        | _ => pure (.null, c.skip)
      let fields := Fields.set key inner fields
      match c.rest with
      | '}' :: _ => return (fields, c.advance 1)
      | ',' :: _ => readFlowMembers fuel fields (c.advance 1).skip
      | _ => none
end

/-- A scalar or flow collection that nothing else follows on its line. -/
def readLine (indent fuel : Nat) (c : Cursor) : Option (Json × Cursor) := do
  let (v, last) ← readFlow false indent fuel c
  let next := last.skip
  if next.line = last.line && !next.rest.isEmpty then none else return (v, next)

/-- A key on one line, up to and with its colon. -/
def readKey (indent fuel : Nat) (c : Cursor) : Option (String × Cursor) := do
  let (v, last) ← readFlow false indent fuel c
  let colon := last.skipSpaces
  if colon.line = c.line && colon.atIndicator ':' then return (← keyText? v, colon.advance 1)
  else none

mutual
/-- A block node whose place is known to be right of the column of its parent. Every collection
returns the place of the first thing that does not belong to it. -/
def readBlock (indent : Nat) : Nat → Cursor → Option (Json × Cursor)
  | 0, _ => none
  | fuel + 1, c =>
    if c.atIndicator '-' then
      (readSequence c.column fuel c).map fun (items, c) => (.arr items, c)
    else
      match readKey indent (2 * c.rest.length + 2) c with
      | some _ => (readMapping indent c.column fuel [] c).map fun (fields, c) => (.obj fields, c)
      | none => readLine indent (2 * c.rest.length + 2) c

/-- The items of a block sequence at a column. -/
def readSequence (column : Nat) : Nat → Cursor → Option (List Json × Cursor)
  | 0, _ => none
  | fuel + 1, c => do
    let next := (c.advance 1).skip
    let (v, next) ←
      if next.atEnd || (next.line ≠ c.line && next.column ≤ column) then pure (.null, next)
      else readBlock (column + 1) fuel next
    if next.atEnd || next.column < column then return ([v], next)
    else if column < next.column then none
    else if next.atIndicator '-' then
      let (items, next) ← readSequence column fuel next
      return (v :: items, next)
    else return ([v], next)

/-- The members of a block mapping at a column, added to those read before. -/
def readMapping (indent column : Nat) : Nat → Fields → Cursor → Option (Fields × Cursor)
  | 0, _, _ => none
  | fuel + 1, fields, c => do
    let (key, afterKey) ← readKey indent (2 * c.rest.length + 2) c
    let next := afterKey.skip
    let (v, next) ←
      if next.atEnd then pure (.null, next)
      else if next.line = c.line then readLine (column + 1) (2 * next.rest.length + 2) next
      else if column < next.column then readBlock (column + 1) fuel next
      else if next.column = column && next.atIndicator '-' then
        (readSequence column fuel next).map fun (items, c) => (.arr items, c)
      else pure (.null, next)
    let fields := Fields.set key v fields
    if next.atEnd || next.column < column then return (fields, next)
    else if column < next.column then none
    else readMapping indent column fuel fields next
end

/-- Characters that a document may hold. -/
def isAllowed (c : Char) : Bool :=
  c = '\t' || c = '\n' || c = '\r' || (0x20 ≤ c.toNat && c.toNat ≤ 0x7e) || c.toNat = 0x85 ||
    (0xa0 ≤ c.toNat && c.toNat ≤ 0xfffd) || 0x10000 ≤ c.toNat

/-- Passes over the markers at the end of a document. -/
def skipEnds : Nat → Cursor → Cursor
  | 0, c => c
  | fuel + 1, c => if c.isMarker '.' then skipEnds fuel (c.advance 3).skip else c

/-- What stands behind the marker at the start of a document. On the line of the marker there is no
room for a block collection. -/
def readMarked (fuel : Nat) (c : Cursor) : Option (Json × Cursor) :=
  let next := (c.advance 3).skip
  if next.atEnd then some (.null, next)
  else if next.line = c.line then readLine 0 fuel next
  else readBlock 0 fuel next

/-- The one document of a text; a text without content is null. -/
def parse (text : List Char) : Option Json := do
  if !text.all isAllowed then none
  let text := match text with
    | '\ufeff' :: rest => rest
    | _ => text
  let start := (Cursor.mk text 0 0).skip
  let fuel := 2 * text.length + 2
  let (v, last) ←
    if start.rest.isEmpty then pure (.null, start)
    else if start.isMarker '-' then readMarked fuel start
    else if start.isMarker '.' then none
    else readBlock 0 fuel start
  if (skipEnds fuel last).rest.isEmpty then return v else none

end SlateMark.Yaml

import InfraDiagram.Text.CharClass
import InfraDiagram.Document.Value

/-!
# Reading JSON

A reader for JSON texts that says where and why it stops. Positions count lines from one and bytes
within a line from zero, up to and including the byte that was found wrong.

## Main definitions

- `Json.Cause`, `Json.Error` — what is wrong and where
- `Json.Cursor` — the unread text and its position
- `Json.value` — one value, nested at most as deep as allowed
- `Json.parse` — a whole document: one value and nothing but white space around it

## Design notes

Nesting is bounded by a depth, on which `value` recurses; strings, lists and mappings are read in
loops that get `fuel` for their steps, for which more than the length of the text is enough. An
error is either *here*, after the bytes read so far, or *at the next byte*, which counts that byte
as read; `Cursor.here` and `Cursor.next` are the two.
-/

namespace InfraDiagram.Json

open Text

/-- What is wrong with a text. -/
inductive Cause where
  | endInValue
  | endInList
  | endInObject
  | endInString
  | expectedValue
  | expectedIdent
  | expectedColon
  | expectedCommaOrBracket
  | expectedCommaOrBrace
  | keyNotString
  | trailingComma
  | trailingCharacters
  | invalidNumber
  | numberOutOfRange
  | invalidEscape
  | unpairedHexEscape
  | loneSurrogate
  | controlCharacter
  | tooDeep
  deriving DecidableEq, Repr

def Cause.message : Cause → String
  | .endInValue => "EOF while parsing a value"
  | .endInList => "EOF while parsing a list"
  | .endInObject => "EOF while parsing an object"
  | .endInString => "EOF while parsing a string"
  | .expectedValue => "expected value"
  | .expectedIdent => "expected ident"
  | .expectedColon => "expected `:`"
  | .expectedCommaOrBracket => "expected `,` or `]`"
  | .expectedCommaOrBrace => "expected `,` or `\x7d`"
  | .keyNotString => "key must be a string"
  | .trailingComma => "trailing comma"
  | .trailingCharacters => "trailing characters"
  | .invalidNumber => "invalid number"
  | .numberOutOfRange => "number out of range"
  | .invalidEscape => "invalid escape"
  | .unpairedHexEscape => "unexpected end of hex escape"
  | .loneSurrogate => "lone leading surrogate in hex escape"
  | .controlCharacter => "control character (\\u0000-\\u001F) found while parsing a string"
  | .tooDeep => "recursion limit exceeded"

/-- A line, counted from one, and the number of its bytes that were read. -/
structure Position where
  line : Nat
  column : Nat
  deriving DecidableEq, Repr

def Position.after (p : Position) (c : Char) (bytes : Nat) : Position :=
  if c = '\n' then ⟨p.line + 1, 0⟩ else ⟨p.line, p.column + bytes⟩

/-- The position after a number of bytes of a text, or after all of it. -/
def Position.afterBytes (p : Position) : Nat → List Char → Position
  | 0, _ => p
  | _, [] => p
  | n, c :: rest =>
    if c.utf8Size ≤ n then (p.after c c.utf8Size).afterBytes (n - c.utf8Size) rest
    else p.after c n
  termination_by _ cs => cs.length

/-- Why a text is not JSON, and where that shows. -/
structure Error where
  cause : Cause
  position : Position
  deriving DecidableEq, Repr

def Error.message (e : Error) : String :=
  e.cause.message ++ " at line " ++ toString e.position.line ++
    " column " ++ toString e.position.column

/-- The unread part of a text. -/
structure Cursor where
  rest : List Char
  position : Position

namespace Cursor

def start (text : String) : Cursor :=
  ⟨text.toList, ⟨1, 0⟩⟩

def here {α : Type} (c : Cursor) (cause : Cause) : Except Error α :=
  .error ⟨cause, c.position⟩

/-- An error at the next byte, which counts as read; at the end of the text there is none. -/
def next {α : Type} (c : Cursor) (cause : Cause) : Except Error α :=
  match c.rest with
  | [] => c.here cause
  | ch :: _ => .error ⟨cause, c.position.after ch 1⟩

def skip (c : Cursor) : Cursor :=
  match c.rest with
  | [] => c
  | ch :: rest => ⟨rest, c.position.after ch ch.utf8Size⟩

/-- Behind the leading characters of a class, with those characters. -/
def span (c : Cursor) (p : Char → Bool) : List Char × Cursor :=
  let taken := c.rest.takeWhile p
  (taken, ⟨c.rest.dropWhile p, taken.foldl (fun pos ch => pos.after ch ch.utf8Size) c.position⟩)

/-- Behind the white space of the format: space, tab, line feed and carriage return. -/
def skipSpace (c : Cursor) : Cursor :=
  (c.span fun ch => ch = ' ' || ch = '\t' || ch = '\n' || ch = '\r').2

def word (c : Cursor) : List Char → Except Error Cursor
  | [] => .ok c
  | w :: ws =>
    match c.rest with
    | [] => c.here .endInValue
    | ch :: _ => if ch = w then c.skip.word ws else c.next .expectedIdent

end Cursor

/-- The greatest exponent that is read digit by digit. -/
def greatestExponent : Nat := 2147483647

def floatOf (negative : Bool) (digits : List Char) (exponent : Int) (c : Cursor) :
    Except Error (Number × Cursor) :=
  match Binary64.ofDecimal? negative (natOfDigits digits) exponent with
  | some x => .ok (.float x, c)
  | none => c.here .numberOutOfRange

/-- The exponent part, behind its `e`. An exponent that is too long to read makes the number zero,
    or is an error at its first digit too many. -/
def exponentPart (negative : Bool) (digits : List Char) (scale : Int) (c : Cursor) :
    Except Error (Number × Cursor) :=
  let (down, c) : Bool × Cursor :=
    match c.rest with
    | '+' :: _ => (false, c.skip)
    | '-' :: _ => (true, c.skip)
    | _ => (false, c)
  match c.rest with
  | [] => c.here .endInValue
  | ch :: _ =>
    if isAsciiDigit ch then
      let (ds, after) := c.span isAsciiDigit
      let readable := (List.range (ds.length + 1)).takeWhile fun k =>
        natOfDigits (ds.take k) ≤ greatestExponent
      if readable.length ≤ ds.length then
        if !down && natOfDigits digits != 0 then
          .error ⟨.numberOutOfRange, ⟨c.position.line, c.position.column + readable.length⟩⟩
        else .ok (.float (Binary64.zero negative), after)
      else
        let e : Int := natOfDigits ds
        floatOf negative digits (scale + if down then -e else e) after
    else c.next .invalidNumber

/-- What follows the whole part of a number. Without a fraction and an exponent it is an integer
    if it lies in the range of 64-bit words, signed for negative ones; the negative zero is not. -/
def afterWhole (negative : Bool) (whole : List Char) (c : Cursor) :
    Except Error (Number × Cursor) :=
  match c.rest with
  | '.' :: _ =>
    let c := c.skip
    let (fraction, c) := c.span isAsciiDigit
    if fraction.isEmpty then
      c.next (if c.rest.isEmpty then .endInValue else .invalidNumber)
    else
      match c.rest with
      | 'e' :: _ | 'E' :: _ =>
        exponentPart negative (whole ++ fraction) (-(fraction.length : Int)) c.skip
      | _ => floatOf negative (whole ++ fraction) (-(fraction.length : Int)) c
  | 'e' :: _ | 'E' :: _ => exponentPart negative whole 0 c.skip
  | _ =>
    let n := natOfDigits whole
    if !negative && n < 1 <<< 64 then .ok (.int n, c)
    else if negative && 0 < n && n ≤ 1 <<< 63 then .ok (.int (-n), c)
    else floatOf negative whole 0 c

/-- A number behind its sign. A leading zero stands alone. -/
def number (negative : Bool) (c : Cursor) : Except Error (Number × Cursor) :=
  match c.rest with
  | [] => c.here .endInValue
  | '0' :: rest =>
    if rest.head?.any isAsciiDigit then c.skip.next .invalidNumber
    else afterWhole negative ['0'] c.skip
  | ch :: _ =>
    if isAsciiDigit ch then
      let (whole, c) := c.span isAsciiDigit
      afterWhole negative whole c
    else c.next .invalidNumber

/-- The four hexadecimal digits of an escape, read as four bytes whatever they are. -/
def hexUnit (c : Cursor) : Except Error (Nat × Cursor) :=
  if c.rest.foldl (fun bytes ch => bytes + ch.utf8Size) 0 < 4 then
    .error ⟨.endInString, c.position.afterBytes 4 c.rest⟩
  else
    match (c.rest.take 4).mapM hexValue? with
    | some ds => .ok (ds.foldl (fun n d => n * 16 + d) 0, c.skip.skip.skip.skip)
    | none => .error ⟨.invalidEscape, c.position.afterBytes 4 c.rest⟩

/-- The character that must come next within a pair of hexadecimal escapes. -/
def expectInPair (want : Char) (c : Cursor) : Except Error Cursor :=
  match c.rest with
  | [] => c.here .endInString
  | ch :: _ => if ch = want then .ok c.skip else c.next .unpairedHexEscape

/-- A hexadecimal escape behind its `u`; a leading surrogate takes the next escape with it. -/
def hexEscape (c : Cursor) : Except Error (Char × Cursor) := do
  let (hi, c) ← hexUnit c
  if 0xDC00 ≤ hi && hi ≤ 0xDFFF then c.here .loneSurrogate
  else if 0xD800 ≤ hi && hi ≤ 0xDBFF then
    let c ← expectInPair '\\' c
    let c ← expectInPair 'u' c
    let (lo, c) ← hexUnit c
    if 0xDC00 ≤ lo && lo ≤ 0xDFFF then
      return (Char.ofNat ((hi - 0xD800) * 0x400 + (lo - 0xDC00) + 0x10000), c)
    else c.here .loneSurrogate
  else return (Char.ofNat hi, c)

def escape (c : Cursor) : Except Error (Char × Cursor) :=
  match c.rest with
  | [] => c.here .endInString
  | '"' :: _ => .ok ('"', c.skip)
  | '\\' :: _ => .ok ('\\', c.skip)
  | '/' :: _ => .ok ('/', c.skip)
  | 'b' :: _ => .ok ('\x08', c.skip)
  | 'f' :: _ => .ok ('\x0c', c.skip)
  | 'n' :: _ => .ok ('\n', c.skip)
  | 'r' :: _ => .ok ('\r', c.skip)
  | 't' :: _ => .ok ('\t', c.skip)
  | 'u' :: _ => hexEscape c.skip
  | _ => c.next .invalidEscape

/-- The rest of a string, behind its opening quote; `seen` holds its characters so far, the last
    first. -/
def stringBody (seen : List Char) (c : Cursor) : Nat → Except Error (String × Cursor)
  | 0 => c.here .endInString
  | fuel + 1 =>
    match c.rest with
    | [] => c.here .endInString
    | '"' :: _ => .ok (String.ofList seen.reverse, c.skip)
    | '\\' :: _ => do
      let (ch, c) ← escape c.skip
      stringBody (ch :: seen) c fuel
    | ch :: _ =>
      if ch.val < 0x20 then c.next .controlCharacter
      else stringBody (ch :: seen) c.skip fuel

def string (fuel : Nat) (c : Cursor) : Except Error (String × Cursor) :=
  stringBody [] c fuel

abbrev ValueReader := Cursor → Except Error (Value × Cursor)

/-- The items of a list up to its bracket; `seen` holds those so far, the last first. -/
def listItems (item : ValueReader) (seen : List Value) (c : Cursor) :
    Nat → Except Error (Value × Cursor)
  | 0 => c.here .endInList
  | fuel + 1 => do
    let c := c.skipSpace
    match c.rest with
    | [] => c.next .endInList
    | ']' :: _ => return (.list seen.reverse, c.skip)
    | ch :: _ =>
      let c ←
        if seen.isEmpty then pure c
        else if ch = ',' then
          let c := c.skip.skipSpace
          match c.rest with
          | ']' :: _ => c.next .trailingComma
          | [] => c.next .endInValue
          | _ => pure c
        else c.next .expectedCommaOrBracket
      let (v, c) ← item c
      listItems item (v :: seen) c fuel

def colon (c : Cursor) : Except Error Cursor :=
  let c := c.skipSpace
  match c.rest with
  | ':' :: _ => .ok c.skip
  | [] => c.next .endInObject
  | _ => c.next .expectedColon

/-- The members of a mapping up to its brace; `seen` holds those so far. -/
def mappingMembers (item : ValueReader) (first : Bool) (seen : Mapping) (c : Cursor) :
    Nat → Except Error (Value × Cursor)
  | 0 => c.here .endInObject
  | fuel + 1 => do
    let c := c.skipSpace
    match c.rest with
    | [] => c.next .endInObject
    | '}' :: _ => return (.mapping seen, c.skip)
    | ch :: _ =>
      let c ←
        if first then
          if ch = '"' then pure c else c.next .keyNotString
        else if ch = ',' then
          let c := c.skip.skipSpace
          match c.rest with
          | '"' :: _ => pure c
          | '}' :: _ => c.next .trailingComma
          | [] => c.next .endInValue
          | _ => c.next .keyNotString
        else c.next .expectedCommaOrBrace
      let (key, c) ← string fuel c.skip
      let c ← colon c
      let (v, c) ← item c
      mappingMembers item false (Mapping.insert key v seen) c fuel

/-- One value, whose inner values are read by `inner`; without it no list or mapping may open. -/
def valueWith (fuel : Nat) (inner : Option ValueReader) (c : Cursor) :
    Except Error (Value × Cursor) := do
  let c := c.skipSpace
  match c.rest with
  | [] => c.next .endInValue
  | 'n' :: _ => return (.null, ← c.skip.word ['u', 'l', 'l'])
  | 't' :: _ => return (.bool true, ← c.skip.word ['r', 'u', 'e'])
  | 'f' :: _ => return (.bool false, ← c.skip.word ['a', 'l', 's', 'e'])
  | '-' :: _ =>
    let (n, c) ← number true c.skip
    return (.number n, c)
  | '"' :: _ =>
    let (s, c) ← string fuel c.skip
    return (.text s, c)
  | '[' :: _ =>
    match inner with
    | some item => listItems item [] c.skip fuel
    | none => c.next .tooDeep
  | '{' :: _ =>
    match inner with
    | some item => mappingMembers item true [] c.skip fuel
    | none => c.next .tooDeep
  | ch :: _ =>
    if isAsciiDigit ch then
      let (n, c) ← number false c
      return (.number n, c)
    else c.next .expectedValue

/-- One value with at most `depth` lists and mappings inside each other. -/
def value (fuel : Nat) : Nat → Cursor → Except Error (Value × Cursor)
  | 0, c => valueWith fuel none c
  | depth + 1, c => valueWith fuel (some (value fuel depth)) c

/-- Documents nest at most this deep. -/
def documentDepth : Nat := 127

def parseNested (depth : Nat) (text : String) : Except Error Value := do
  let (v, c) ← value (text.length + 1) depth (.start text)
  let c := c.skipSpace
  if c.rest.isEmpty then return v else c.next .trailingCharacters

def parse (text : String) : Except Error Value :=
  parseNested documentDepth text

end InfraDiagram.Json

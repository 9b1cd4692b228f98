import InfraDiagram.Document.Yaml.Data
import InfraDiagram.Number.Shortest

/-!
# Writing YAML in block style

The text of a collection that serves as a key. Collections are written in blocks, two columns
deeper for each level, and a scalar is quoted only where it has to be.

## Main definitions

- `Yaml.Number.text` — the text of a number
- `Yaml.ScalarShape` — what quoting depends on
- `Yaml.scalarText` — a text with the quotes it needs
- `Yaml.Data.block` — data in block style

## Design notes

A collection begins on the line of its indicator if it is an entry of a sequence or an explicit
key or value, and on a line of its own if it is the value behind a simple key; a sequence is not
indented further there.
-/

namespace InfraDiagram.Yaml

open Text

/-- Numbers with a fraction are written as in documents, but exponents carry no plus sign. -/
def numeralLayout : NumeralLayout :=
  ⟨-5, 15, false⟩

def Number.text : Number → String
  | .int i => toString i
  | .float x => numeralLayout.render x
  | .infinity negative => if negative then "-.inf" else ".inf"
  | .notANumber => ".nan"

/-- Characters that are written as they are. -/
def isPrintable (c : Char) : Bool :=
  c = '\n' || (' ' ≤ c && c ≤ '~') || (0xA0 ≤ c.val && c.val ≤ 0xD7FF) ||
    (0xE000 ≤ c.val && c.val ≤ 0xFFFD && c != byteOrderMark)

def leadingIndicators : List Char :=
  ['#', ',', '[', ']', '{', '}', '&', '*', '!', '|', '>', '\'', '"', '%', '@', '`']

/-- Whether a character is blank, a break, or behind the end. -/
def isBlankOrEnd (c : Option Char) : Bool :=
  c.all fun ch => ch = ' ' || ch = '\t' || isBreak ch

/-- Whether an indicator inside of a text keeps it from being plain. -/
def innerIndicator : Option Char → List Char → Bool
  | _, [] => false
  | before, c :: rest =>
    (c = ':' && isBlankOrEnd rest.head?) || (c = '#' && isBlankOrEnd before) ||
      innerIndicator (some c) rest

def hasIndicator (cs : List Char) : Bool :=
  match cs with
  | [] => false
  | c :: rest =>
    cs.take 3 = ['-', '-', '-'] || cs.take 3 = ['.', '.', '.'] || leadingIndicators.contains c ||
      (['?', ':', '-'].contains c && isBlankOrEnd rest.head?) || innerIndicator (some c) rest

/-- Whether two neighbouring characters are of the given classes. -/
def hasPair (p q : Char → Bool) (cs : List Char) : Bool :=
  (cs.zip cs.tail).any fun (a, b) => p a && q b

/-- What quoting depends on. -/
structure ScalarShape where
  /-- Whether the text goes over lines. -/
  multiline : Bool
  plainAllowed : Bool
  singleQuotedAllowed : Bool
  literalAllowed : Bool

def ScalarShape.of (cs : List Char) : ScalarShape :=
  let isSpace (c : Char) : Bool := c = ' '
  let isEdge (c : Char) : Bool := c = ' ' || isBreak c
  let multiline := cs.any isBreak
  let padded := cs.head?.any isEdge || cs.getLast?.any isEdge
  let breakSpace := hasPair isBreak isSpace cs
  let foreign := hasPair isSpace isBreak cs || cs.any fun c => !isPrintable c
  if cs.isEmpty then ⟨false, true, true, false⟩
  else
    { multiline
      plainAllowed := !(padded || breakSpace || foreign || multiline || hasIndicator cs)
      singleQuotedAllowed := !(breakSpace || foreign)
      literalAllowed := !(cs.getLast?.any isSpace || foreign) }

/-- Words that some readers take for truth values. -/
def truthWords : List String :=
  ["y", "Y", "yes", "Yes", "YES", "n", "N", "no", "No", "NO", "true", "True", "TRUE", "false",
   "False", "FALSE", "on", "On", "ON", "off", "Off", "OFF"]

/-- Whether a text would be read as something else if it stood without quotes. -/
def isAmbiguous (s : String) : Bool :=
  truthWords.contains s || isZeroLed s.toList ||
    match Scalar.ofPlain s with
    | .ok (.text _) => false
    | .ok _ => true
    | .error _ => true

/-- A number in hexadecimal capitals with at least so many digits. -/
def hexText (width n : Nat) : List Char :=
  let digits := (Nat.toDigits 16 n).map Char.toUpper
  List.replicate (width - digits.length) '0' ++ digits

def doubleQuotedChar (c : Char) : List Char :=
  let named := [('\x00', '0'), ('\x07', 'a'), ('\x08', 'b'), ('\t', 't'), ('\n', 'n'),
    ('\x0b', 'v'), ('\x0c', 'f'), ('\r', 'r'), ('\x1b', 'e'), ('"', '"'), ('\\', '\\'),
    ('\u0085', 'N'), ('\u00a0', '_'), ('\u2028', 'L'), ('\u2029', 'P')]
  if isPrintable c && !isBreak c && c != '"' && c != '\\' then [c]
  else
    match named.lookup c with
    | some letter => ['\\', letter]
    | none =>
      if c.toNat ≤ 0xFF then ['\\', 'x'] ++ hexText 2 c.toNat
      else if c.toNat ≤ 0xFFFF then ['\\', 'u'] ++ hexText 4 c.toNat
      else ['\\', 'U'] ++ hexText 8 c.toNat

def doubleQuotedText (cs : List Char) : List Char :=
  '"' :: cs.flatMap doubleQuotedChar ++ ['"']

def singleQuotedText (cs : List Char) : List Char :=
  '\'' :: cs.flatMap (fun c => if c = '\'' then ['\'', '\''] else [c]) ++ ['\'']

/-- The lines of a literal text, indented to a column; blank lines stay empty. -/
def literalLines (column : Nat) (atStart : Bool) : List Char → List Char
  | [] => []
  | c :: rest =>
    if isBreak c then c :: literalLines column true rest
    else if atStart then List.replicate column ' ' ++ c :: literalLines column false rest
    else c :: literalLines column false rest

/-- A text as a literal block: its header, and its lines indented to a column. -/
def literalText (column : Nat) (cs : List Char) : List Char :=
  let hint := if cs.head?.any fun c => c = ' ' || isBreak c then ['2'] else []
  let chomp :=
    match cs.reverse with
    | [] => ['-']
    | [c] => if isBreak c then ['+'] else ['-']
    | c :: d :: _ => if !isBreak c then ['-'] else if isBreak d then ['+'] else []
  '|' :: hint ++ chomp ++ '\n' :: literalLines column true cs

/-- A text with the quotes that it needs. As a simple key it stays on one line; otherwise a text
    of several lines is a literal block whose lines begin at a column. -/
def scalarText (simpleKey : Bool) (column : Nat) (s : String) : String :=
  let cs := s.toList
  let shape := ScalarShape.of cs
  let quoted := if shape.singleQuotedAllowed then singleQuotedText cs else doubleQuotedText cs
  String.ofList <|
    if truthWords.contains s then quoted
    else if cs.contains '\n' then
      if simpleKey || !shape.literalAllowed then doubleQuotedText cs else literalText column cs
    else if simpleKey && shape.multiline then doubleQuotedText cs
    else if isAmbiguous s || !shape.plainAllowed then quoted
    else cs

/-- Where data is written. -/
inductive Place where
  /-- At the beginning of the text. -/
  | top
  /-- Behind an indicator that begins a line of its own, in a block at a column. -/
  | inline (column : Nat)
  /-- Behind the colon of a simple key, in a block at a column. -/
  | value (column : Nat)

def Place.column (isSequence : Bool) : Place → Nat
  | .top => 0
  | .inline column => column + 2
  | .value column => if isSequence then column else column + 2

def Place.textColumn : Place → Nat
  | .top => 2
  | .inline column => column + 2
  | .value column => column + 2

/-- A scalar at a place, behind a space unless it begins the text. -/
def Place.scalar (p : Place) (s : String) : String :=
  match p with
  | .top => s
  | _ => " " ++ s

def spaces (column : Nat) : String :=
  String.ofList (List.replicate column ' ')

/-- A new line up to a column, unless the text before ends with one. -/
def newLineAfter (text : String) (column : Nat) : String :=
  if text.toList.getLast? = some '\n' then spaces column else "\n" ++ spaces column

/-- The lines of a collection at a place. Behind a tag they begin on a line of their own. -/
def Place.lines (p : Place) (tag : String) (column : Nat) (body : String) : String :=
  match p, tag.isEmpty with
  | .top, true => body
  | .inline _, true => " " ++ body
  | .value _, true => "\n" ++ spaces column ++ body
  | .top, false => tag ++ "\n" ++ spaces column ++ body
  | _, false => " " ++ tag ++ "\n" ++ spaces column ++ body

def isSimpleKey : Data → Bool
  | .text s => !s.toList.any isBreak && s.utf8ByteSize ≤ 128
  | .sequence items => items.isEmpty
  | .mapping pairs => pairs.isEmpty
  | .tagged _ _ => false
  | _ => true

def simpleKeyText : Data → String
  | .null => "null"
  | .bool b => if b then "true" else "false"
  | .number n => n.text
  | .text s => scalarText true 0 s
  | .sequence _ => "[]"
  | .mapping _ => "\x7b\x7d"
  | .tagged _ _ => ""

def withTag (tag s : String) : String :=
  if tag.isEmpty then s else tag ++ " " ++ s

def onLines (column : Nat) (entries : List String) : String :=
  match entries with
  | [] => ""
  | first :: rest =>
    rest.foldl (fun text entry => text ++ newLineAfter text column ++ entry) first

mutual

def Data.blockAt (p : Place) (tag : String) : Data → String
  | .null => p.scalar (withTag tag "null")
  | .bool b => p.scalar (withTag tag (if b then "true" else "false"))
  | .number n => p.scalar (withTag tag n.text)
  | .text s => p.scalar (withTag tag (scalarText false p.textColumn s))
  | .sequence [] => p.scalar (withTag tag "[]")
  | .mapping [] => p.scalar (withTag tag "\x7b\x7d")
  | .sequence (x :: xs) =>
    let column := p.column true
    p.lines tag column (onLines column (Data.blockItems column (x :: xs)))
  | .mapping (pair :: pairs) =>
    let column := p.column false
    p.lines tag column (onLines column (Data.blockPairs column (pair :: pairs)))
  | .tagged name value => value.blockAt p ("!" ++ name)

def Data.blockItems (column : Nat) : List Data → List String
  | [] => []
  | x :: rest => ("-" ++ x.blockAt (.inline column) "") :: Data.blockItems column rest

def Data.blockPairs (column : Nat) : List (Data × Data) → List String
  | [] => []
  | (k, v) :: rest =>
    let pair :=
      if isSimpleKey k then simpleKeyText k ++ ":" ++ v.blockAt (.value column) ""
      else
        let key := "?" ++ k.blockAt (.inline column) ""
        key ++ newLineAfter key column ++ ":" ++ v.blockAt (.inline column) ""
    pair :: Data.blockPairs column rest

end

def Data.block (d : Data) : String :=
  d.blockAt .top ""

end InfraDiagram.Yaml

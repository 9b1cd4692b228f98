import InfraDiagram.Document.Yaml.Fault
import InfraDiagram.Text.CharClass

/-!
# Reading positions in YAML texts

The unread part of a text together with the place where it begins, and the character classes that
the layout of a document depends on.

## Main definitions

- `Yaml.isBreak`, `Yaml.isBlank`, `Yaml.isNameChar` — classes of characters
- `Yaml.Cursor` — the unread text with its index, line and column
- `Yaml.Cursor.skip`, `Yaml.Cursor.skipBreak` — one character or one line break further
- `Yaml.Gap` — the white space between two words, and how it is folded

## Design notes

A carriage return with the line feed behind it is one line break. The end of a text counts as
blank and as a break wherever a class says so with `OrEnd`.
-/

namespace InfraDiagram.Yaml

/-- The characters that end a line. -/
def isBreak (c : Char) : Bool :=
  c = '\n' || c = '\r' || c = '\u0085' || c = '\u2028' || c = '\u2029'

/-- Spaces and tabs. -/
def isBlank (c : Char) : Bool :=
  c = ' ' || c = '\t'

/-- The characters of anchors, tag handles and directive names. -/
def isNameChar (c : Char) : Bool :=
  Text.isAsciiLetter c || Text.isAsciiDigit c || c = '_' || c = '-'

def byteOrderMark : Char := '\uFEFF'

/-- The characters that a document may hold. -/
def isAllowed (c : Char) : Bool :=
  c = '\t' || c = '\n' || c = '\r' || (' ' ≤ c && c ≤ '~') || c = '\u0085' ||
    (0xA0 ≤ c.val && c.val ≤ 0xD7FF) || (0xE000 ≤ c.val && c.val ≤ 0xFFFD) || 0x10000 ≤ c.val

/-- The unread part of a text and the place where it begins. -/
structure Cursor where
  rest : List Char
  /-- Characters read so far. -/
  index : Nat
  line : Nat
  column : Nat

namespace Cursor

def start (cs : List Char) : Cursor :=
  ⟨cs, 0, 0, 0⟩

def peek? (c : Cursor) : Option Char :=
  c.rest.head?

def at? (c : Cursor) (n : Nat) : Option Char :=
  (c.rest.drop n).head?

def atEnd (c : Cursor) : Bool :=
  c.rest.isEmpty

def sees (c : Cursor) (ch : Char) : Bool :=
  c.peek? = some ch

def seesAny (c : Cursor) (p : Char → Bool) : Bool :=
  c.peek?.any p

def breakOrEndAt (c : Cursor) (n : Nat) : Bool :=
  (c.at? n).all isBreak

/-- Whether the character at a distance is blank, a break or the end. -/
def blankOrEndAt (c : Cursor) (n : Nat) : Bool :=
  (c.at? n).all fun ch => isBlank ch || isBreak ch

/-- One character further, on the same line. -/
def skip (c : Cursor) : Cursor :=
  match c.rest with
  | [] => c
  | _ :: rest => ⟨rest, c.index + 1, c.line, c.column + 1⟩

def skipBy (c : Cursor) (n : Nat) : Cursor :=
  ⟨c.rest.drop n, c.index + min n c.rest.length, c.line, c.column + min n c.rest.length⟩

/-- Behind the leading characters of a class, with those characters. -/
def span (c : Cursor) (p : Char → Bool) : List Char × Cursor :=
  let taken := c.rest.takeWhile p
  (taken, ⟨c.rest.dropWhile p, c.index + taken.length, c.line, c.column + taken.length⟩)

def skipWhile (c : Cursor) (p : Char → Bool) : Cursor :=
  (c.span p).2

def skipLine (c : Cursor) : Cursor :=
  c.skipWhile fun ch => !isBreak ch

/-- Behind a line break, with the text it stands for: a line feed, or the separator itself. -/
def takeBreak (c : Cursor) : List Char × Cursor :=
  match c.rest with
  | '\r' :: '\n' :: rest => (['\n'], ⟨rest, c.index + 2, c.line + 1, 0⟩)
  | ch :: rest =>
    if isBreak ch then
      (if ch = '\u2028' || ch = '\u2029' then [ch] else ['\n'], ⟨rest, c.index + 1, c.line + 1, 0⟩)
    else ([], c)
  | [] => ([], c)

def skipBreak (c : Cursor) : Cursor :=
  c.takeBreak.2

/-- Whether a document marker of three equal characters stands at the beginning of this line. -/
def atMarker (c : Cursor) (ch : Char) : Bool :=
  c.column = 0 && c.rest.take 3 = [ch, ch, ch] && c.blankOrEndAt 3

def atAnyMarker (c : Cursor) : Bool :=
  c.atMarker '-' || c.atMarker '.'

end Cursor

/-- The white space between two words of a text. -/
structure Gap where
  /-- Blanks on the line of the word before. -/
  blanks : List Char
  /-- Whether the line was left. -/
  broken : Bool
  /-- The first line break, unless it was escaped. -/
  first : List Char
  /-- The breaks of the blank lines behind it. -/
  more : List Char

namespace Gap

def empty : Gap := ⟨[], false, [], []⟩

/-- The gap behind a line break that was escaped. -/
def afterEscapedBreak : Gap := ⟨[], true, [], []⟩

def isEmpty (g : Gap) : Bool :=
  g.blanks.isEmpty && !g.broken

/-- What the gap stands for: its blanks, or a folded line break. A single line feed is a space,
    further ones stay. -/
def folded (g : Gap) : List Char :=
  if g.broken then
    if g.first.head? = some '\n' then (if g.more.isEmpty then [' '] else g.more)
    else g.first ++ g.more
  else g.blanks

/-- Reads a gap on from its beginning. Before the column `indent` of a new line tabs are faults. -/
def read (indent : Nat) (g : Gap) (c : Cursor) : Nat → Except Fault (Gap × Cursor)
  | 0 => .ok (g, c)
  | fuel + 1 =>
    match c.peek? with
    | none => .ok (g, c)
    | some ch =>
      if isBlank ch then
        if g.broken && c.column < indent && ch = '\t' then .error .tabIndentation
        else read indent (if g.broken then g else { g with blanks := g.blanks ++ [ch] }) c.skip fuel
      else if isBreak ch then
        let (text, c) := c.takeBreak
        let g : Gap :=
          if g.broken then { g with more := g.more ++ text } else ⟨[], true, text, []⟩
        read indent g c fuel
      else .ok (g, c)

end Gap

end InfraDiagram.Yaml

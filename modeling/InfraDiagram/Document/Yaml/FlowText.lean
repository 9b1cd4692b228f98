import InfraDiagram.Document.Yaml.Cursor

/-!
# Quoted and plain texts

The texts that fold over lines: in single quotes, in double quotes, and without quotes.

## Main definitions

- `Yaml.singleQuoted`, `Yaml.doubleQuoted` — quoted texts behind their opening quote
- `Yaml.plain` — a text without quotes

## Design notes

Each text alternates between words and gaps. A reader for one word stops at white space or at the
end of the text; the loop around it folds the gaps. All loops get `fuel` for their steps, for which
more than the length of the text is enough.
-/

namespace InfraDiagram.Yaml

open Text

/-- The characters that a one-letter escape stands for. -/
def simpleEscapes : List (Char × Char) :=
  [('0', '\x00'), ('a', '\x07'), ('b', '\x08'), ('t', '\t'), ('\t', '\t'), ('n', '\n'),
   ('v', '\x0b'), ('f', '\x0c'), ('r', '\r'), ('e', '\x1b'), (' ', ' '), ('"', '"'), ('/', '/'),
   ('\\', '\\'), ('N', '\u0085'), ('_', '\u00a0'), ('L', '\u2028'), ('P', '\u2029')]

def hexEscapeLength? (c : Char) : Option Nat :=
  if c = 'x' then some 2 else if c = 'u' then some 4 else if c = 'U' then some 8 else none

/-- The character with a code point, surrogates and numbers too great excluded. -/
def charOfCode? (n : Nat) : Option Char :=
  if n.isValidChar then some (Char.ofNat n) else none

def hexEscape (digits : Nat) (c : Cursor) : Except Fault (Char × Cursor) :=
  match (c.rest.take digits).mapM hexValue? with
  | some ds =>
    if ds.length = digits then
      match charOfCode? (ds.foldl (fun n d => n * 16 + d) 0) with
      | some ch => .ok (ch, c.skipBy digits)
      | none => .error .badEscape
    else .error .badEscape
  | none => .error .badEscape

def escape (c : Cursor) : Except Fault (Char × Cursor) :=
  match c.peek? with
  | none => .error .badEscape
  | some ch =>
    match simpleEscapes.lookup ch, hexEscapeLength? ch with
    | some meant, _ => .ok (meant, c.skip)
    | none, some digits => hexEscape digits c.skip
    | none, none => .error .badEscape

abbrev Word := List Char × Gap × Cursor

/-- A word in single quotes; two quotes stand for one. -/
def singleQuotedWord (seen : List Char) (c : Cursor) : Nat → Word
  | 0 => (seen.reverse, .empty, c)
  | fuel + 1 =>
    match c.rest with
    | '\'' :: '\'' :: _ => singleQuotedWord ('\'' :: seen) (c.skipBy 2) fuel
    | '\'' :: _ | [] => (seen.reverse, .empty, c)
    | ch :: _ =>
      if isBlank ch || isBreak ch then (seen.reverse, .empty, c)
      else singleQuotedWord (ch :: seen) c.skip fuel

/-- A word in double quotes, with its escapes. An escaped line break ends the word without a
    trace. -/
def doubleQuotedWord (seen : List Char) (c : Cursor) : Nat → Except Fault Word
  | 0 => .ok (seen.reverse, .empty, c)
  | fuel + 1 =>
    match c.rest with
    | '"' :: _ | [] => .ok (seen.reverse, .empty, c)
    | '\\' :: next :: _ =>
      if isBreak next then .ok (seen.reverse, .afterEscapedBreak, c.skip.skipBreak)
      else do
        let (ch, c) ← escape c.skip
        doubleQuotedWord (ch :: seen) c fuel
    | '\\' :: [] => .error .badEscape
    | ch :: _ =>
      if isBlank ch || isBreak ch then .ok (seen.reverse, .empty, c)
      else doubleQuotedWord (ch :: seen) c.skip fuel

/-- The words and gaps of a quoted text up to its closing quote. -/
def quotedWords (quote : Char) (word : Cursor → Nat → Except Fault Word) (seen : List Char)
    (c : Cursor) : Nat → Except Fault (List Char × Cursor)
  | 0 => .error .unclosedText
  | fuel + 1 => do
    if c.atAnyMarker || c.atEnd then throw .unclosedText
    let (text, gap, c) ← word c (fuel + 1)
    let seen := seen ++ text
    if c.sees quote then return (seen, c.skip)
    let (gap, c) ← gap.read 0 c (fuel + 1)
    quotedWords quote word (seen ++ gap.folded) c fuel

/-- A text in single quotes, behind the first one. -/
def singleQuoted (fuel : Nat) (c : Cursor) : Except Fault (List Char × Cursor) :=
  quotedWords '\'' (fun c fuel => .ok (singleQuotedWord [] c fuel)) [] c fuel

/-- A text in double quotes, behind the first one. -/
def doubleQuoted (fuel : Nat) (c : Cursor) : Except Fault (List Char × Cursor) :=
  quotedWords '"' (doubleQuotedWord []) [] c fuel

/-- The characters that end a plain text inside a flow collection. -/
def isFlowIndicator (c : Char) : Bool :=
  c = ',' || c = '[' || c = ']' || c = '{' || c = '}'

/-- A word without quotes. A colon before white space ends the text, and so do the indicators of
    flow collections inside of one. -/
def plainWord (inFlow : Bool) (seen : List Char) (c : Cursor) :
    Nat → Except Fault (List Char × Cursor)
  | 0 => .ok (seen.reverse, c)
  | fuel + 1 =>
    match c.rest with
    | [] => .ok (seen.reverse, c)
    | ch :: _ =>
      if isBlank ch || isBreak ch then .ok (seen.reverse, c)
      else if inFlow && ch = ':' && (c.at? 1).any fun next => next = '?' || isFlowIndicator next then
        .error .ambiguousColon
      else if ch = ':' && c.blankOrEndAt 1 then .ok (seen.reverse, c)
      else if inFlow && isFlowIndicator ch then .ok (seen.reverse, c)
      else plainWord inFlow (ch :: seen) c.skip fuel

/-- The words and gaps of a plain text. It ends at a document marker, at a comment, at an
    indicator, and, outside of flow collections, at a line that is not indented far enough. The
    truth value tells whether lines were left behind the last word. -/
def plainWords (inFlow : Bool) (indent : Nat) (seen : List Char) (gap : Gap) (c : Cursor) :
    Nat → Except Fault (List Char × Bool × Cursor)
  | 0 => .ok (seen, gap.broken, c)
  | fuel + 1 => do
    if c.atAnyMarker || c.sees '#' then return (seen, gap.broken, c)
    let (text, c) ← plainWord inFlow [] c (fuel + 1)
    let (seen, gap) := if text.isEmpty then (seen, gap) else (seen ++ gap.folded ++ text, Gap.empty)
    if !c.seesAny (fun ch => isBlank ch || isBreak ch) then return (seen, gap.broken, c)
    let (gap, c) ← Gap.read indent gap c (fuel + 1)
    if !inFlow && c.column < indent then return (seen, gap.broken, c)
    plainWords inFlow indent seen gap c fuel

/-- A plain text whose further lines are indented at least as far as `indent`. -/
def plain (inFlow : Bool) (indent fuel : Nat) (c : Cursor) :
    Except Fault (List Char × Bool × Cursor) :=
  plainWords inFlow indent [] .empty c fuel

end InfraDiagram.Yaml

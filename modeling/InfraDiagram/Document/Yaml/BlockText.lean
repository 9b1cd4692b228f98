import InfraDiagram.Document.Yaml.Cursor

/-!
# Block texts

Texts that are set off by their indentation: literal ones keep their lines, folded ones join them.

## Main definitions

- `Yaml.BlockHeader` — what stands behind the indicator
- `Yaml.blockText` — a block text behind its indicator
-/

namespace InfraDiagram.Yaml

/-- What becomes of the line breaks at the end of a block text. -/
inductive Chomping where
  | strip
  | clip
  | keep
  deriving DecidableEq, Repr

/-- The header of a block text: chomping and explicit indentation. -/
structure BlockHeader where
  chomping : Chomping
  indent : Option Nat
  deriving DecidableEq, Repr

def chomping? (c : Cursor) : Option Chomping :=
  if c.sees '+' then some .keep else if c.sees '-' then some .strip else none

/-- An explicit indentation; zero is a fault. -/
def headerIndent (c : Cursor) : Except Fault (Option Nat × Cursor) :=
  match c.peek? with
  | some ch =>
    if ch = '0' then .error .badHeader
    else if Text.isAsciiDigit ch then .ok (some (Text.digitValue ch), c.skip)
    else .ok (none, c)
  | none => .ok (none, c)

/-- The header up to the end of its line. The two indicators come in either order, and a comment
    may follow. -/
def blockHeader (c : Cursor) : Except Fault (BlockHeader × Cursor) := do
  let (header, c) ←
    match chomping? c with
    | some chomping => do
      let (indent, c) ← headerIndent c.skip
      pure (BlockHeader.mk chomping indent, c)
    | none => do
      let (indent, c) ← headerIndent c
      match indent, chomping? c with
      | some _, some chomping => pure (BlockHeader.mk chomping indent, c.skip)
      | _, _ => pure (BlockHeader.mk .clip indent, c)
  let c := c.skipWhile isBlank
  let c := if c.sees '#' then c.skipLine else c
  if c.breakOrEndAt 0 then return (header, c.skipBreak) else throw .badHeader

/-- Blank lines before a line of text: their breaks, and the furthest column that a line of spaces
    reaches. Spaces are skipped up to the indentation, or all of them while it is not known. -/
def blockBreaks (indent : Option Nat) (breaks : List Char) (furthest : Nat) (c : Cursor) :
    Nat → Except Fault (List Char × Nat × Cursor)
  | 0 => .ok (breaks, furthest, c)
  | fuel + 1 =>
    let spaces :=
      match indent with
      | some n => (c.rest.take (n - c.column)).takeWhile (· = ' ')
      | none => c.rest.takeWhile (· = ' ')
    let c := c.skipBy spaces.length
    let furthest := max furthest c.column
    if indent.all (c.column < ·) && c.sees '\t' then .error .tabIndentation
    else if c.seesAny isBreak then
      let (text, c) := c.takeBreak
      blockBreaks indent (breaks ++ text) furthest c fuel
    else .ok (breaks, furthest, c)

/-- The state between two lines of a block text. -/
structure BlockLines where
  text : List Char
  /-- The break behind the last line. -/
  lastBreak : List Char
  /-- The breaks of the blank lines behind it. -/
  blankLines : List Char
  /-- Whether the last line began with white space. -/
  indented : Bool

/-- The text with the line break before the next line. In folded texts a single line feed between
    two lines that are not indented further is a space. -/
def BlockLines.joined (b : BlockLines) (literal indentedNext : Bool) : List Char :=
  if !literal && b.lastBreak.head? = some '\n' && !b.indented && !indentedNext then
    b.text ++ (if b.blankLines.isEmpty then [' '] else []) ++ b.blankLines
  else b.text ++ b.lastBreak ++ b.blankLines

def blockLines (literal : Bool) (indent : Nat) (b : BlockLines) (c : Cursor) :
    Nat → Except Fault (BlockLines × Cursor)
  | 0 => .ok (b, c)
  | fuel + 1 =>
    if c.column = indent && !c.atEnd then do
      let indented := c.seesAny isBlank
      let joined := b.joined literal indented
      let (line, c) := c.span fun ch => !isBreak ch
      let (lastBreak, c) := c.takeBreak
      let (blankLines, _, c) ← blockBreaks (some indent) [] 0 c (fuel + 1)
      blockLines literal indent ⟨joined ++ line, lastBreak, blankLines, indented⟩ c fuel
    else .ok (b, c)

/-- A block text behind its indicator, in a block that is indented by `parent`; at top level there
    is none. Without an explicit indentation the first line decides. As `fuel` more than the length
    of the text is enough. -/
def blockText (literal : Bool) (parent : Option Nat) (fuel : Nat) (c : Cursor) :
    Except Fault (List Char × Cursor) := do
  let (header, c) ← blockHeader c
  let explicit := header.indent.map fun n => parent.getD 0 + n
  let (breaks, furthest, c) ← blockBreaks explicit [] 0 c fuel
  let least := match parent with
    | some n => n + 1
    | none => 1
  let indent := explicit.getD (max furthest least)
  let (b, c) ← blockLines literal indent ⟨[], [], breaks, false⟩ c fuel
  let last := if header.chomping = .strip then [] else b.lastBreak
  let blank := if header.chomping = .keep then b.blankLines else []
  return (b.text ++ last ++ blank, c)

end InfraDiagram.Yaml

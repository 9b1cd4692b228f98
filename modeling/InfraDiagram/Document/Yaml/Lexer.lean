import InfraDiagram.Document.Yaml.BlockText
import InfraDiagram.Document.Yaml.FlowText
import InfraDiagram.Document.Yaml.Property

/-!
# Dividing YAML texts into tokens

Indentation opens and closes block collections, and a colon may turn what stands before it into a
key. So the reader keeps a stack of indentations, and for every flow level the place where a key
may have begun.

## Main definitions

- `Yaml.PendingKey` — a place where a key may have begun
- `Yaml.Lexer` — the state of reading
- `Yaml.Lexer.next` — one step, which adds tokens
- `Yaml.tokens` — all tokens of a text

## Design notes

When a colon shows that a pending key was a key, its token is inserted where the key began; tokens
are numbered from the beginning of the text for that. Each step of each loop reads at least one
character, so all loops are bounded by the length of the text.
-/

namespace InfraDiagram.Yaml

/-- A place where a key may have begun. -/
structure PendingKey where
  /-- The number of the token that begins there. -/
  token : Nat
  index : Nat
  line : Nat
  column : Nat
  /-- Whether only a key can stand there. -/
  required : Bool

/-- The state of reading. -/
structure Lexer where
  cursor : Cursor
  tokens : Array Token
  /-- The columns of the open block collections, the innermost first. -/
  indents : List Nat
  /-- The pending key outside of flow collections, or of the innermost one. -/
  pending : Option PendingKey
  /-- The pending keys around it, one for each open flow collection. -/
  outer : List (Option PendingKey)
  /-- Whether a key may begin here. -/
  keyAllowed : Bool
  /-- A bound for all loops: more than the length of the text. -/
  bound : Nat

namespace Lexer

def start (cs : List Char) : Lexer :=
  ⟨.start cs, #[], [], none, [], true, cs.length + 2⟩

def inFlow (l : Lexer) : Bool :=
  !l.outer.isEmpty

def indent? (l : Lexer) : Option Nat :=
  l.indents.head?

def push (l : Lexer) (t : Token) : Lexer :=
  { l with tokens := l.tokens.push t }

def insertAt (l : Lexer) (number : Nat) (t : Token) : Lexer :=
  { l with tokens := l.tokens.insertIdxIfInBounds number t }

def moveTo (l : Lexer) (c : Cursor) : Lexer :=
  { l with cursor := c }

/-- Drops the pending key; a required one must not be dropped. -/
def dropPending (l : Lexer) : Except Fault Lexer :=
  if l.pending.any (·.required) then .error .missingColon else .ok { l with pending := none }

/-- Notes that a key may begin here, if one is allowed. -/
def savePending (l : Lexer) : Except Fault Lexer :=
  if l.keyAllowed then do
    let required := !l.inFlow && l.indent? = some l.cursor.column
    let key : PendingKey :=
      ⟨l.tokens.size, l.cursor.index, l.cursor.line, l.cursor.column, required⟩
    let l ← l.dropPending
    return { l with pending := some key }
  else .ok l

/-- The greatest number of characters between a key and its colon. -/
def keyReach : Nat := 1024

/-- A pending key as long as its colon may still come: on the same line and not too far off. -/
def refresh (c : Cursor) (pending : Option PendingKey) : Except Fault (Option PendingKey) :=
  match pending with
  | none => .ok none
  | some key =>
    if key.line < c.line || key.index + keyReach < c.index then
      if key.required then .error .missingColon else .ok none
    else .ok (some key)

/-- Drops all pending keys whose colon can no longer come. -/
def refreshAll (l : Lexer) : Except Fault Lexer := do
  let pending ← refresh l.cursor l.pending
  let outer ← l.outer.mapM (refresh l.cursor)
  return { l with pending, outer }

/-- Opens a block collection at a column that is deeper than the innermost one. Its token goes to
    a given number, or to the end. -/
def roll (l : Lexer) (column : Nat) (t : Token) (number : Option Nat) : Lexer :=
  if l.inFlow || l.indent?.any (column ≤ ·) then l
  else
    let l := { l with indents := column :: l.indents }
    match number with
    | some n => l.insertAt n t
    | none => l.push t

/-- Closes the block collections that a predicate on their columns holds of, from the innermost. -/
def closeWhile (l : Lexer) (p : Nat → Bool) : Lexer :=
  let closed := l.indents.takeWhile p
  { l with
    indents := l.indents.dropWhile p
    tokens := l.tokens ++ (closed.map fun _ => Token.blockEnd).toArray }

def unroll (l : Lexer) (column : Nat) : Lexer :=
  if l.inFlow then l else l.closeWhile (column < ·)

def unrollAll (l : Lexer) : Lexer :=
  if l.inFlow then l else l.closeWhile fun _ => true

/-- Skips white space, comments and line breaks up to the next token. Outside of flow collections
    a key may begin on the next line, and tabs may not come before one. A byte order mark at the
    beginning is skipped too and takes up a column. -/
def skipToToken (l : Lexer) : Nat → Lexer
  | 0 => l
  | fuel + 1 =>
    let c := l.cursor
    let c := if c.index = 0 && c.sees byteOrderMark then c.skip else c
    let tabs := l.inFlow || !l.keyAllowed
    let c := c.skipWhile fun ch => ch = ' ' || (tabs && ch = '\t')
    let c := if c.sees '#' then c.skipLine else c
    if c.seesAny isBreak then
      skipToToken { l with cursor := c.skipBreak, keyAllowed := l.keyAllowed || !l.inFlow } fuel
    else l.moveTo c

def readEnd (l : Lexer) : Except Fault Lexer := do
  let l ← l.unrollAll.dropPending
  return ({ l with keyAllowed := false }).push .streamEnd

def readDirective (l : Lexer) : Except Fault Lexer := do
  let l ← l.unrollAll.dropPending
  let (t, c) ← directive l.cursor.skip
  return (({ l with keyAllowed := false }).push t).moveTo c

def readMarker (l : Lexer) (t : Token) : Except Fault Lexer := do
  let l ← l.unrollAll.dropPending
  return (({ l with keyAllowed := false }).push t).moveTo (l.cursor.skipBy 3)

/-- The beginning of a flow collection, which may be a key itself. -/
def openFlow (l : Lexer) (t : Token) : Except Fault Lexer := do
  let l ← l.savePending
  let l := { l with outer := l.pending :: l.outer, pending := none, keyAllowed := true }
  return (l.push t).moveTo l.cursor.skip

def closeFlow (l : Lexer) (t : Token) : Except Fault Lexer := do
  let l ← l.dropPending
  let l :=
    match l.outer with
    | key :: outer => { l with pending := key, outer }
    | [] => l
  return (({ l with keyAllowed := false }).push t).moveTo l.cursor.skip

def readFlowEntry (l : Lexer) : Except Fault Lexer := do
  let l ← l.dropPending
  return (({ l with keyAllowed := true }).push .flowEntry).moveTo l.cursor.skip

def readBlockEntry (l : Lexer) : Except Fault Lexer := do
  if !l.inFlow && !l.keyAllowed then throw .misplaced
  let l ← (l.roll l.cursor.column .blockSequenceStart none).dropPending
  return (({ l with keyAllowed := true }).push .blockEntry).moveTo l.cursor.skip

def readKey (l : Lexer) : Except Fault Lexer := do
  if !l.inFlow && !l.keyAllowed then throw .misplaced
  let l ← (l.roll l.cursor.column .blockMappingStart none).dropPending
  return (({ l with keyAllowed := !l.inFlow }).push .key).moveTo l.cursor.skip

/-- The colon before a value. If a key is pending, it turns out to have been one. -/
def readValue (l : Lexer) : Except Fault Lexer := do
  match l.pending with
  | some key =>
    let l := (l.insertAt key.token .key).roll key.column .blockMappingStart (some key.token)
    return (({ l with pending := none, keyAllowed := false }).push .value).moveTo l.cursor.skip
  | none =>
    if !l.inFlow && !l.keyAllowed then throw .misplaced
    let l := l.roll l.cursor.column .blockMappingStart none
    return (({ l with keyAllowed := !l.inFlow }).push .value).moveTo l.cursor.skip

def readAnchor (l : Lexer) (t : String → Token) : Except Fault Lexer := do
  let l ← l.savePending
  let (name, c) ← anchorName l.cursor.skip
  return (({ l with keyAllowed := false }).push (t name)).moveTo c

def readTag (l : Lexer) : Except Fault Lexer := do
  let l ← l.savePending
  let (t, c) ← tagProperty l.inFlow l.cursor
  return (({ l with keyAllowed := false }).push t).moveTo c

def readBlockText (l : Lexer) (literal : Bool) : Except Fault Lexer := do
  let l ← l.dropPending
  let (text, c) ← blockText literal l.indent? l.bound l.cursor.skip
  return (({ l with keyAllowed := true }).push (.scalar false (String.ofList text))).moveTo c

def readQuoted (l : Lexer) (text : Nat → Cursor → Except Fault (List Char × Cursor)) :
    Except Fault Lexer := do
  let l ← l.savePending
  let (text, c) ← text l.bound l.cursor.skip
  return (({ l with keyAllowed := false }).push (.scalar false (String.ofList text))).moveTo c

/-- A plain text. Behind one that left its last line a key may begin. -/
def readPlain (l : Lexer) : Except Fault Lexer := do
  let l ← l.savePending
  let indent := (l.indent?.map (· + 1)).getD 0
  let (text, leftLine, c) ← plain l.inFlow indent l.bound l.cursor
  return (({ l with keyAllowed := leftLine }).push (.scalar true (String.ofList text))).moveTo c

def indicators : List Char :=
  ['-', '?', ':', ',', '[', ']', '{', '}', '#', '&', '*', '!', '|', '>', '\'', '"', '%', '@', '`']

/-- Whether a plain text begins at a character. Some indicators begin one if no white space
    follows them. -/
def beginsPlain (l : Lexer) (ch : Char) : Bool :=
  let followed := !l.cursor.blankOrEndAt 1
  !(isBlank ch || indicators.contains ch) || (ch = '-' && followed) ||
    (!l.inFlow && (ch = '?' || ch = ':') && followed)

def readAt (l : Lexer) (ch : Char) : Except Fault Lexer :=
  let c := l.cursor
  let separate := l.inFlow || c.blankOrEndAt 1
  if c.column = 0 && ch = '%' then l.readDirective
  else if c.atMarker '-' then l.readMarker .documentStart
  else if c.atMarker '.' then l.readMarker .documentEnd
  else if ch = '[' then l.openFlow .flowSequenceStart
  else if ch = '{' then l.openFlow .flowMappingStart
  else if ch = ']' then l.closeFlow .flowSequenceEnd
  else if ch = '}' then l.closeFlow .flowMappingEnd
  else if ch = ',' then l.readFlowEntry
  else if ch = '-' && c.blankOrEndAt 1 then l.readBlockEntry
  else if ch = '?' && separate then l.readKey
  else if ch = ':' && separate then l.readValue
  else if ch = '*' then l.readAnchor .aliasName
  else if ch = '&' then l.readAnchor .anchor
  else if ch = '!' then l.readTag
  else if ch = '|' && !l.inFlow then l.readBlockText true
  else if ch = '>' && !l.inFlow then l.readBlockText false
  else if ch = '\'' then l.readQuoted singleQuoted
  else if ch = '"' then l.readQuoted doubleQuoted
  else if l.beginsPlain ch then l.readPlain
  else .error .strayCharacter

/-- One step: up to the next token, which closes the block collections that it is not part of. -/
def next (l : Lexer) : Except Fault Lexer := do
  let l ← (l.skipToToken l.bound).refreshAll
  match l.cursor.peek? with
  | none => l.readEnd
  | some ch => (l.unroll l.cursor.column).readAt ch

def run (l : Lexer) : Nat → Except Fault (Array Token)
  | 0 => .error .strayCharacter
  | fuel + 1 => do
    let l ← l.next
    if l.tokens.back? = some .streamEnd then return l.tokens else run l fuel

end Lexer

def tokens (text : String) : Except Fault (List Token) := do
  let cs := text.toList
  let l := Lexer.start cs
  if cs.all isAllowed then return (← l.run l.bound).toList else throw .forbiddenCharacter

end InfraDiagram.Yaml

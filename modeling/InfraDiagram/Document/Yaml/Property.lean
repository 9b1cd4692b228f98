import InfraDiagram.Document.Yaml.Cursor
import InfraDiagram.Document.Yaml.Token

/-!
# Anchors, tags and directives

The readers for the short pieces that say something about a node or about a document.

## Main definitions

- `Yaml.anchorName` — the name behind the indicator of an anchor or an alias
- `Yaml.tagProperty` — a tag
- `Yaml.directive` — a line that begins with a percent sign
-/

namespace InfraDiagram.Yaml

open Text

/-- Characters that may stand directly behind an anchor. -/
def mayFollowAnchor (c : Char) : Bool :=
  isBlank c || isBreak c || ['?', ':', ',', ']', '}', '%', '@', '`'].contains c

def anchorName (c : Cursor) : Except Fault (String × Cursor) :=
  let (name, c) := c.span isNameChar
  if name.isEmpty || !c.peek?.all mayFollowAnchor then .error .badAnchor
  else .ok (String.ofList name, c)

/-- The characters of a tag's address; flow indicators only within angle brackets. -/
def isAddressChar (verbatim : Bool) (c : Char) : Bool :=
  isNameChar c || [';', '/', '?', ':', '@', '&', '=', '+', '$', '.', '!', '~', '*', '\'', '(',
    ')', '%'].contains c || (verbatim && [',', '[', ']'].contains c)

def percentByte (c : Cursor) : Except Fault (Nat × Cursor) :=
  match c.rest with
  | '%' :: hi :: lo :: _ =>
    match hexValue? hi, hexValue? lo with
    | some h, some l => .ok (h * 16 + l, c.skipBy 3)
    | _, _ => .error .badTag
  | _ => .error .badTag

/-- The bytes that continue a character in percent notation. -/
def percentTail (code : Nat) (c : Cursor) : Nat → Except Fault (Nat × Cursor)
  | 0 => .ok (code, c)
  | n + 1 => do
    let (byte, c) ← percentByte c
    if byte / 64 = 2 then percentTail (code * 64 + byte % 64) c n else throw .badTag

/-- A character in percent notation, given by the bytes of its UTF-8 form. -/
def percentChar (c : Cursor) : Except Fault (Char × Cursor) := do
  let (byte, c) ← percentByte c
  let (code, c) ←
    if byte < 0x80 then pure (byte, c)
    else if byte / 32 = 6 then percentTail (byte % 32) c 1
    else if byte / 16 = 14 then percentTail (byte % 16) c 2
    else if byte / 8 = 30 then percentTail (byte % 8) c 3
    else throw .badTag
  return (if code.isValidChar then Char.ofNat code else '\uFFFD', c)

def tagAddress (verbatim : Bool) (seen : List Char) (c : Cursor) :
    Nat → Except Fault (List Char × Cursor)
  | 0 => .ok (seen, c)
  | fuel + 1 =>
    match c.peek? with
    | none => .ok (seen, c)
    | some ch =>
      if ch = '%' then do
        let (ch, c) ← percentChar c
        tagAddress verbatim (seen ++ [ch]) c fuel
      else if isAddressChar verbatim ch then tagAddress verbatim (seen ++ [ch]) c.skip fuel
      else .ok (seen, c)

/-- The handle of a tag: an exclamation mark, and perhaps a name with another one. -/
def tagHandle (c : Cursor) : List Char × Cursor :=
  let (name, c) := c.skip.span isNameChar
  if c.sees '!' then ('!' :: name ++ ['!'], c.skip) else ('!' :: name, c)

/-- Whether a handle has an exclamation mark at either end. -/
def isNamedHandle (handle : List Char) : Bool :=
  2 ≤ handle.length && handle.getLast? = some '!'

/-- A tag as a handle and a suffix. A verbatim tag has the empty handle, and so has the single
    exclamation mark. -/
def tagParts (c : Cursor) : Except Fault ((List Char × List Char) × Cursor) := do
  let fuel := c.rest.length + 1
  if c.at? 1 = some '<' then
    let (address, c) ← tagAddress true [] (c.skipBy 2) fuel
    if address.isEmpty || !c.sees '>' then throw .badTag
    return (([], address), c.skip)
  let (handle, c) := tagHandle c
  if isNamedHandle handle then
    let (suffix, c) ← tagAddress false [] c fuel
    if suffix.isEmpty then throw .badTag
    return ((handle, suffix), c)
  let (suffix, c) ← tagAddress false (handle.drop 1) c fuel
  return (if suffix.isEmpty then ([], ['!']) else (['!'], suffix), c)

/-- A tag. White space must follow it; in a flow collection a comma may. -/
def tagProperty (inFlow : Bool) (c : Cursor) : Except Fault (Token × Cursor) := do
  let ((handle, suffix), c) ← tagParts c
  if c.blankOrEndAt 0 || (inFlow && c.sees ',') then
    return (.tag (String.ofList handle) (String.ofList suffix), c)
  else throw .badTag

def versionNumber (c : Cursor) : Except Fault (Nat × Cursor) :=
  let (digits, c) := c.span isAsciiDigit
  if digits.isEmpty || 9 < digits.length then .error .badDirective
  else .ok (natOfDigits digits, c)

def versionDirective (c : Cursor) : Except Fault (Token × Cursor) := do
  let (major, c) ← versionNumber (c.skipWhile isBlank)
  if !c.sees '.' then throw .badDirective
  let (minor, c) ← versionNumber c.skip
  return (.versionDirective major minor, c)

def tagDirective (c : Cursor) : Except Fault (Token × Cursor) := do
  let c := c.skipWhile isBlank
  if !c.sees '!' then throw .badDirective
  let (handle, c) := tagHandle c
  if !(handle = ['!'] || isNamedHandle handle) then throw .badDirective
  if !c.seesAny isBlank then throw .badDirective
  let c := c.skipWhile isBlank
  let (address, c) ← tagAddress true [] c (c.rest.length + 1)
  if address.isEmpty || !c.blankOrEndAt 0 then throw .badDirective
  return (.tagDirective (String.ofList handle) (String.ofList address), c)

/-- A directive behind its percent sign, up to the end of its line. -/
def directive (c : Cursor) : Except Fault (Token × Cursor) := do
  let (name, c) := c.span isNameChar
  if name.isEmpty || !c.blankOrEndAt 0 then throw .badDirective
  let (token, c) ←
    if name = ['Y', 'A', 'M', 'L'] then versionDirective c
    else if name = ['T', 'A', 'G'] then tagDirective c
    else throw .badDirective
  let c := c.skipWhile isBlank
  let c := if c.sees '#' then c.skipLine else c
  if c.breakOrEndAt 0 then return (token, c.skipBreak) else throw .badDirective

end InfraDiagram.Yaml

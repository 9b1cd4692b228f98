import InfraDiagram.Text.CharClass

/-!
# Text inside double quotes

The escaping that makes any text safe inside a double-quoted DOT string. Backslashes and quotes
are escaped, a line feed becomes the two characters of DOT's line break, a tab becomes a space,
and every other control character is left out.

## Main definitions

- `escape` — a text as it stands between the quotes
- `unescape?` — the reader for escaped text; it refuses everything that `escape` never writes
- `shown` — what is left of a text after it was written and read back

## Design notes

`escape` works character by character and never looks at what it wrote, so nothing is escaped
twice.
-/

namespace InfraDiagram.Text

/-- One character as it stands between the quotes. -/
def escapeChar (c : Char) : List Char :=
  if c = '\\' then ['\\', '\\']
  else if c = '"' then ['\\', '"']
  else if c = '\n' then ['\\', 'n']
  else if c = '\t' then [' ']
  else if isControl c then []
  else [c]

def escape (cs : List Char) : List Char :=
  cs.flatMap escapeChar

/-- Reads escaped text: an escaped backslash, quote or line break, and any other character that
    is neither a quote nor a control character. -/
def unescape? : List Char → Option (List Char)
  | [] => some []
  | '\\' :: '\\' :: rest => (unescape? rest).map ('\\' :: ·)
  | '\\' :: '"' :: rest => (unescape? rest).map ('"' :: ·)
  | '\\' :: 'n' :: rest => (unescape? rest).map ('\n' :: ·)
  | c :: rest =>
    if c = '\\' || c = '"' || isControl c then none else (unescape? rest).map (c :: ·)

/-- One character as a reader of the diagram sees it. -/
def shownChar (c : Char) : Option Char :=
  if c = '\n' then some '\n'
  else if c = '\t' then some ' '
  else if isControl c then none
  else some c

/-- A text as a reader of the diagram sees it: tabs are spaces, line feeds stay, and the other
    control characters are gone. -/
def shown (cs : List Char) : List Char :=
  cs.filterMap shownChar

def quote (s : String) : String :=
  String.ofList ('"' :: escape s.toList ++ ['"'])

def lineBreak : List Char := ['\\', 'n']

def escapeLabel (s : String) : String :=
  String.ofList (escape s.toList)

/-- The lines that are not blank, escaped and joined by line breaks. -/
def escapeLines (lines : List String) : String :=
  String.ofList <|
    lineBreak.intercalate ((lines.filter fun line => !isBlank line).map fun line =>
      escape line.toList)

end InfraDiagram.Text

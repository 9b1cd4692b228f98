import InfraDiagram.Document.Value

/-!
# Writing JSON

Document values as JSON text, either on one line without spaces or one member a line.

## Main definitions

- `Json.quoted` — a text as a JSON string
- `Json.compact` — a value on one line
- `Json.pretty` — a value with two spaces of indentation for each level

## Design notes

Only quotes, backslashes and the control characters below the space are escaped; all other
characters, delete included, stand for themselves.
-/

namespace InfraDiagram.Json

def hexDigit (n : Nat) : Char :=
  Nat.digitChar n

def escapeChar (c : Char) : List Char :=
  if c = '"' then ['\\', '"']
  else if c = '\\' then ['\\', '\\']
  else if c = '\x08' then ['\\', 'b']
  else if c = '\t' then ['\\', 't']
  else if c = '\n' then ['\\', 'n']
  else if c = '\x0c' then ['\\', 'f']
  else if c = '\r' then ['\\', 'r']
  else if c.val < 0x20 then ['\\', 'u', '0', '0', hexDigit (c.toNat / 16), hexDigit (c.toNat % 16)]
  else [c]

def quoted (s : String) : String :=
  String.ofList ('"' :: s.toList.flatMap escapeChar ++ ['"'])

mutual

def compact : Value → String
  | .null => "null"
  | .bool b => if b then "true" else "false"
  | .number n => n.text
  | .text s => quoted s
  | .list items => "[" ++ compactItems items ++ "]"
  | .mapping members => "\x7b" ++ compactMembers members ++ "\x7d"

def compactItems : List Value → String
  | [] => ""
  | [v] => compact v
  | v :: w :: rest => compact v ++ "," ++ compactItems (w :: rest)

def compactMembers : List (String × Value) → String
  | [] => ""
  | [(k, v)] => quoted k ++ ":" ++ compact v
  | (k, v) :: m :: rest => quoted k ++ ":" ++ compact v ++ "," ++ compactMembers (m :: rest)

end

def newLine (level : Nat) : String :=
  String.ofList ('\n' :: List.replicate (2 * level) ' ')

mutual

/-- A value that stands on a line of the given level, its parts one level deeper. -/
def prettyAt (level : Nat) : Value → String
  | .null => "null"
  | .bool b => if b then "true" else "false"
  | .number n => n.text
  | .text s => quoted s
  | .list [] => "[]"
  | .list (v :: rest) => "[" ++ prettyItems (level + 1) (v :: rest) ++ newLine level ++ "]"
  | .mapping [] => "\x7b\x7d"
  | .mapping (m :: rest) =>
    "\x7b" ++ prettyMembers (level + 1) (m :: rest) ++ newLine level ++ "\x7d"

def prettyItems (level : Nat) : List Value → String
  | [] => ""
  | [v] => newLine level ++ prettyAt level v
  | v :: w :: rest => newLine level ++ prettyAt level v ++ "," ++ prettyItems level (w :: rest)

def prettyMembers (level : Nat) : List (String × Value) → String
  | [] => ""
  | [(k, v)] => newLine level ++ quoted k ++ ": " ++ prettyAt level v
  | (k, v) :: m :: rest =>
    newLine level ++ quoted k ++ ": " ++ prettyAt level v ++ "," ++ prettyMembers level (m :: rest)

end

def pretty (v : Value) : String :=
  prettyAt 0 v

end InfraDiagram.Json

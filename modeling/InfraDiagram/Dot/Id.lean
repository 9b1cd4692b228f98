import InfraDiagram.Text.Escaped

/-!
# DOT identifiers

Every logical name becomes a DOT identifier: a bare word where the grammar allows one, a quoted
string where not. A name that is already a well-formed quoted identifier stays as it is.

## Main definitions

- `isBare`, `isQuoted` — the two forms of an identifier
- `ofName` — the identifier for a logical name
- `canonical` — the identity of an identifier: quotes are not part of it
- `suffixed` — an identifier with a number attached

## Design notes

`canonical` is what two identifiers must differ in to name different nodes, since `x` and the
quoted `x` are one node.
-/

namespace InfraDiagram.Dot.Id

open Text

/-- Words that the grammar reserves in any case. -/
def reserved : List String :=
  ["node", "edge", "graph", "digraph", "subgraph", "strict"]

def isStart (c : Char) : Bool :=
  isAsciiLetter c || c = '_'

def isWordChar (c : Char) : Bool :=
  isStart c || isAsciiDigit c

/-- The shape of a bare identifier, reserved words included. -/
def isWord : List Char → Bool
  | [] => false
  | c :: rest => isStart c && rest.all isWordChar

def isBare (raw : String) : Bool :=
  isWord raw.toList && !reserved.any (eqIgnoreAsciiCase raw)

/-- Whether every quote is escaped and every backslash is followed by the character it escapes.
    Outside of escapes no control character is allowed. -/
def isEscaped : List Char → Bool
  | [] => true
  | ['\\'] => false
  | '\\' :: _ :: rest => isEscaped rest
  | c :: rest => c != '"' && !isControl c && isEscaped rest

/-- What stands between the first and the last character, if both are quotes. -/
def inner? : List Char → Option (List Char)
  | '"' :: rest => if rest.getLast? = some '"' then some rest.dropLast else none
  | _ => none

def isQuoted (raw : String) : Bool :=
  (inner? raw.toList).any isEscaped

def ofName (raw : String) : String :=
  if isBare raw || isQuoted raw then raw else quote raw

def canonical (id : String) : String :=
  match inner? id.toList with
  | some cs => if isEscaped cs then String.ofList cs else id
  | none => id

/-- The identifier with `_n` at its end, within its quotes if it has any. -/
def suffixed (id : String) (n : Nat) : String :=
  if isQuoted id then "\"" ++ canonical id ++ "_" ++ toString n ++ "\""
  else id ++ "_" ++ toString n

end InfraDiagram.Dot.Id

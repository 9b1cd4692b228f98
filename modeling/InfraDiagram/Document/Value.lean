import InfraDiagram.Number.Shortest

/-!
# Document values

What a decoded document is made of: scalars, lists and mappings. The order of the members of a
mapping is part of its value, because some diagrams are drawn in that order.

## Main definitions

- `Number`, `Value`, `Mapping` — decoded data
- `Number.text` — the decimal text of a number
- `Mapping.get?`, `Mapping.insert` — look-up and replacement in place
- `Value.typeName` — the word for a value's type in messages

## Design notes

A mapping is the list of its members. Readers build it by `Mapping.insert`, so a key that is given
twice keeps its first place and takes its last value; `Mapping.DistinctKeys` says that no key
occurs twice.
-/

namespace InfraDiagram

/-- A number is an integer or a finite binary fraction; the two never compare equal. -/
inductive Number where
  | int (value : Int)
  | float (value : Binary64)
  deriving DecidableEq, Inhabited

/-- Numbers with a fraction are positional from `0.00001` up to sixteen digits before the point,
    and carry a signed exponent beyond that. -/
def Number.layout : NumeralLayout :=
  ⟨-5, 15, true⟩

def Number.text : Number → String
  | .int i => toString i
  | .float x => Number.layout.render x

/-- A decoded document or a part of one. -/
inductive Value where
  | null
  | bool (value : Bool)
  | number (value : Number)
  | text (value : String)
  | list (items : List Value)
  | mapping (members : List (String × Value))
  deriving Inhabited

/-- Members in the order in which their keys first appeared. -/
abbrev Mapping := List (String × Value)

namespace Mapping

def get? (m : Mapping) (key : String) : Option Value :=
  List.lookup key m

def contains (m : Mapping) (key : String) : Bool :=
  (m.get? key).isSome

/-- Sets a key: in its place if it is present, at the end if not. -/
def insert (key : String) (value : Value) : Mapping → Mapping
  | [] => [(key, value)]
  | (k, v) :: rest => if k = key then (k, value) :: rest else (k, v) :: insert key value rest

def keys (m : Mapping) : List String :=
  m.map Prod.fst

/-- No key occurs twice. -/
def DistinctKeys (m : Mapping) : Prop :=
  m.keys.Nodup

end Mapping

namespace Value

def typeName : Value → String
  | .null => "null"
  | .bool _ => "boolean"
  | .number _ => "number"
  | .text _ => "string"
  | .list _ => "list"
  | .mapping _ => "mapping"

def isNull : Value → Bool
  | .null => true
  | _ => false

def mapping? : Value → Option Mapping
  | .mapping m => some m
  | _ => none

def list? : Value → Option (List Value)
  | .list items => some items
  | _ => none

def text? : Value → Option String
  | .text s => some s
  | _ => none

end Value

end InfraDiagram

import InfraDiagram.Document.Value
import InfraDiagram.Document.Yaml.BlockStyle

/-!
# Document values of YAML data

YAML knows more than documents need: keys of any type, tags, infinities. What remains is the value
that the same document would have in JSON.

## Main definitions

- `Yaml.Data.keyText` — a key as text
- `Yaml.Number.toValue` — a number as a document value
- `Yaml.Data.toValue` — data as a document value

## Design notes

A mapping is built by `Mapping.insert`. Keys that become the same text therefore share one member,
which keeps the first place and takes the last value.
-/

namespace InfraDiagram.Yaml

/-- A key as text: scalars by their words and numerals, collections in block style. -/
def Data.keyText : Data → String
  | .text s => s
  | .number n => n.text
  | .bool b => if b then "true" else "false"
  | .null => "null"
  | .tagged _ value => value.keyText
  | .sequence items => Text.trim (Data.sequence items).block
  | .mapping pairs => Text.trim (Data.mapping pairs).block

/-- The number as an unsigned word of 64 bits. -/
def Number.unsigned? : Number → Option Nat
  | .int i => if 0 ≤ i ∧ i < (1 <<< 64 : Nat) then some i.toNat else none
  | _ => none

/-- The number as a signed word of 64 bits. -/
def Number.signed? : Number → Option Int
  | .int i => if -(1 <<< 63 : Nat) ≤ i ∧ i < (1 <<< 63 : Nat) then some i else none
  | _ => none

/-- The number as a fraction; infinities and not-a-number are none. -/
def Number.finite? : Number → Option Binary64
  | .float x => some x
  | _ => none

/-- A number as a document value: an unsigned word if it is one, else a signed word, else a
    fraction. There is no value for infinities and not-a-number. -/
def Number.toValue (n : Number) : Value :=
  match n.unsigned?, n.signed?, n.finite? with
  | some u, _, _ => .number (.int u)
  | none, some i, _ => .number (.int i)
  | none, none, some x => .number (.float x)
  | none, none, none => .null

mutual

def Data.toValue : Data → Value
  | .null => .null
  | .bool b => .bool b
  | .number n => n.toValue
  | .text s => .text s
  | .sequence items => .list (Data.toValues items)
  | .mapping pairs => .mapping (Data.toMembers [] pairs)
  | .tagged _ value => value.toValue

def Data.toValues : List Data → List Value
  | [] => []
  | x :: rest => x.toValue :: Data.toValues rest

/-- The members of a mapping: those so far, and those of further pairs. -/
def Data.toMembers (members : Mapping) : List (Data × Data) → Mapping
  | [] => members
  | (k, v) :: rest => Data.toMembers (Mapping.insert k.keyText v.toValue members) rest

end

end InfraDiagram.Yaml

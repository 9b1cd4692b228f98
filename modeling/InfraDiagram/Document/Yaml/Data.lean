import InfraDiagram.Document.Yaml.Node
import InfraDiagram.Document.Yaml.Scalar

/-!
# Data of YAML documents

The interpreted tree of a document: scalars have their meaning, aliases are replaced by what they
mean, and no mapping holds a key twice.

## Main definitions

- `Yaml.Data` — the tree
- `Yaml.Data.same` — equality of keys
- `Yaml.Document.data` — the tree of a document
- `Yaml.data` — the tree of a text; a text without a document is null

## Design notes

The expansion recurses on the nesting that is still allowed, which also ends it for a node that
contains an alias for itself. The number of aliases that may be followed grows with the size of
the document, so that a small text cannot stand for an enormous tree.
-/

namespace InfraDiagram.Yaml

/-- Interpreted data. -/
inductive Data where
  | null
  | bool (value : Bool)
  | number (value : Number)
  | text (value : String)
  | sequence (items : List Data)
  | mapping (pairs : List (Data × Data))
  /-- A value under a tag of the document's own. -/
  | tagged (tag : String) (value : Data)
  deriving Inhabited

namespace Data

def ofScalar : Scalar → Data
  | .null => .null
  | .bool b => .bool b
  | .number n => .number n
  | .text s => .text s

/-- A tag without the exclamation mark at its beginning, if anything is behind that. -/
def tagName (tag : String) : String :=
  match tag.toList with
  | '!' :: c :: rest => String.ofList (c :: rest)
  | _ => tag

mutual

/-- Equality of keys. The order of pairs does not count. -/
def same : Data → Data → Bool
  | .null, .null => true
  | .bool a, .bool b => a == b
  | .number m, .number n => m.same n
  | .text s, .text t => s == t
  | .sequence xs, .sequence ys => sameItems xs ys
  | .mapping ps, .mapping qs => ps.length == qs.length && samePairs ps qs
  | .tagged s x, .tagged t y => tagName s == tagName t && same x y
  | _, _ => false

def sameItems : List Data → List Data → Bool
  | [], [] => true
  | x :: xs, y :: ys => same x y && sameItems xs ys
  | _, _ => false

def samePairs : List (Data × Data) → List (Data × Data) → Bool
  | [], _ => true
  | (k, v) :: ps, qs => sameIn k v qs && samePairs ps qs

def sameIn (k v : Data) : List (Data × Data) → Bool
  | [] => false
  | (l, w) :: qs => (same k l && same v w) || sameIn k v qs

end

end Data

/-- Expansion, which counts the aliases that were followed. -/
abbrev Expand := StateT Nat (Except Fault)

namespace Document

def target? (d : Document) (number : Nat) : Option Node :=
  (d.places.lookup number).bind fun place => d.anchored.lookup place

/-- Aliases that may be followed for each unit of a document's size. -/
def aliasesPerUnit : Nat := 100

/-- A node that is no alias: the node itself or what it means. -/
def follow (d : Document) (n : Node) : Expand Node := do
  match n with
  | .aliasNode number =>
    let followed := (← get) + 1
    set followed
    if d.size * aliasesPerUnit < followed then throw .tooManyAliases
    match d.target? number with
    | some target => return target
    | none => throw .tooDeep
  | other => return other

/-- Data under its tag, if the tag is one of the document's own. -/
def underTag (tag : Option String) (data : Data) : Except Fault Data :=
  match tag.map String.toList with
  | some ('!' :: []) => .error .badTag
  | some ('!' :: name) => .ok (.tagged (String.ofList name) data)
  | _ => .ok data

/-- The data of a scalar. Tags of the document's own leave the meaning of a text alone. -/
def scalarData (tag : Option String) (plain : Bool) (text : String) : Except Fault Data := do
  let standard := tag.filter fun t => t.toList.head? != some '!'
  let scalar ←
    match standard with
    | some t => Scalar.ofTagged t text
    | none => if plain then Scalar.ofPlain text else pure (.text text)
  underTag tag (.ofScalar scalar)

/-- The data of a node that is no alias, whose inner nodes are expanded by `inner`; without it no
    collection may open. -/
def shallow (inner : Option (Node → Expand Data)) (n : Node) : Expand Data :=
  match n, inner with
  | .scalar tag plain text, _ => scalarData tag plain text
  | .sequence tag items, some expand => do
    let items ← items.mapM expand
    underTag tag (.sequence items)
  | .mapping tag pairs, some expand => do
    let pairs ← pairs.foldlM
      (fun seen (k, v) => do
        let key ← expand k
        if seen.any fun (l, _) => Data.same key l then throw .duplicateKey
        let value ← expand v
        return (key, value) :: seen)
      []
    underTag tag (.mapping pairs.reverse)
  | _, _ => throw .tooDeep

def expand (d : Document) : Nat → Node → Expand Data
  | 0, n => do shallow none (← d.follow n)
  | depth + 1, n => do shallow (some (expand d depth)) (← d.follow n)

def data (d : Document) : Except Fault Data := do
  return (← (d.expand collectionDepth d.root).run 0).1

end Document

def data (text : String) : Except Fault Data := do
  match ← document? text with
  | some d => d.data
  | none => return .null

end InfraDiagram.Yaml

import InfraDiagram.Document.Value

/-!
# Paths and structural errors

Where a part of a document stands, and the one error that keeps a document from being drawn: a
list or mapping was required and something else was found.

## Main definitions

- `Path` — steps by key and by index from the root of a document
- `Path.text` — a path as it is written in messages
- `Shape`, `StructureError` — what was required, where, and what was found
-/

namespace InfraDiagram

/-- A step into a mapping or a list. -/
inductive Step where
  | key (name : String)
  | index (position : Nat)
  deriving DecidableEq, Repr

def Step.text : Step → String
  | .key name => "." ++ name
  | .index position => "[" ++ toString position ++ "]"

/-- The steps from a starting point, which has a text of its own. -/
structure Path where
  base : String
  steps : List Step
  deriving DecidableEq, Repr

namespace Path

def root : Path := ⟨"$", []⟩

def key (p : Path) (name : String) : Path :=
  { p with steps := p.steps ++ [.key name] }

def index (p : Path) (position : Nat) : Path :=
  { p with steps := p.steps ++ [.index position] }

def text (p : Path) : String :=
  p.base ++ String.join (p.steps.map Step.text)

end Path

/-- What may be required of a part of a document. -/
inductive Shape where
  | list
  | mapping
  | mappingOrList
  | listOrMapping
  deriving DecidableEq, Repr

def Shape.words : Shape → String
  | .list => "list"
  | .mapping => "mapping"
  | .mappingOrList => "mapping or list"
  | .listOrMapping => "list or mapping"

/-- A part of a document that is not what it must be. -/
structure StructureError where
  path : Path
  expected : Shape
  /-- The type of the value that was found. -/
  found : String
  deriving DecidableEq, Repr

namespace StructureError

def of (path : Path) (expected : Shape) (value : Value) : StructureError :=
  ⟨path, expected, value.typeName⟩

def message (e : StructureError) : String :=
  "structurally invalid document at " ++ e.path.text ++ ": expected " ++ e.expected.words ++
    ", found " ++ e.found

end StructureError

end InfraDiagram

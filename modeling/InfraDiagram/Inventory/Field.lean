import InfraDiagram.Document.Path
import InfraDiagram.Text.CharClass

/-!
# Fields

How the fields of an inventory document are read. Documents are written by hand, so a scalar may
be a string, a number or a boolean, a list may be missing, and most fields have several names.

## Main definitions

- `Field.text`, `Field.firstText` — a scalar as text
- `Field.list`, `Field.listAlias` — a list under one of several names, with its path
- `Field.mapping` — an optional mapping
- `Field.oneOrMany` — one entity under a singular name or many under a plural one
-/

namespace InfraDiagram.Field

/-- A scalar as text: a string without surrounding white space, if anything is left of it, a
    number in decimal, or a truth value by its word. -/
def scalarText : Value → Option String
  | .text s => if Text.isBlank s then none else some (Text.trim s)
  | .number n => some n.text
  | .bool b => some (if b then "true" else "false")
  | _ => none

def text (m : Mapping) (key : String) : Option String :=
  (m.get? key).bind scalarText

def firstText (m : Mapping) (keys : List String) : Option String :=
  keys.findSome? (text m)

/-- A list field; nothing and null are the empty list. -/
def list (m : Mapping) (key : String) (path : Path) : Except StructureError (List Value) :=
  match m.get? key with
  | none | some .null => .ok []
  | some (.list items) => .ok items
  | some other => .error (.of (path.key key) .list other)

/-- Whether a key holds something other than null. -/
def isPresent (m : Mapping) (key : String) : Bool :=
  (m.get? key).any fun v => !v.isNull

/-- The list under the first key that holds anything, with its path. If none does, the list is
    empty and the path is that of the first key. -/
def listAlias (m : Mapping) (keys : List String) (path : Path) :
    Except StructureError (List Value × Path) :=
  match keys.find? (isPresent m) with
  | some key => (list m key path).map fun items => (items, path.key key)
  | none => .ok ([], path.key (keys.head?.getD ""))

def mapping (value : Option Value) (path : Path) : Except StructureError (Option Mapping) :=
  match value with
  | none | some .null => .ok none
  | some (.mapping m) => .ok (some m)
  | some other => .error (.of path .mapping other)

/-- The entities of a field that holds one of them under its singular name or many under its
    plural name, with their paths. The singular name wins unless it holds null. -/
def oneOrMany (m : Mapping) (singular plural : String) (path : Path) :
    Except StructureError (List (Value × Path)) :=
  let key := if isPresent m singular then singular else plural
  let base := path.key key
  match m.get? key with
  | none | some .null => .ok []
  | some (.list items) => .ok (items.zipIdx.map fun (v, i) => (v, base.index i))
  | some (.mapping entity) => .ok [(.mapping entity, base)]
  | some (.text id) => .ok [(.text id, base)]
  | some other => .error (.of base .mappingOrList other)

end InfraDiagram.Field

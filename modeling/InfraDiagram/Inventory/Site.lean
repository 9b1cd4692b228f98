import InfraDiagram.Inventory.Field

/-!
# Sites

## Main definitions

- `Site` — a site of a topology, or the site of an equipment document
- `Site.ofDocument` — the sites of a topology
- `Site.header` — the site that an equipment document belongs to
-/

namespace InfraDiagram

/-- A site. -/
structure Site where
  id : String
  label : String
  type : Option String
  address : Option String
  capacity : Option String
  deriving DecidableEq, Repr

namespace Site

def ofId (id : String) : Site :=
  ⟨id, id, none, none, none⟩

def ofMapping (m : Mapping) (defaultId : String) : Site :=
  let id := (Field.firstText m ["id", "name"]).getD defaultId
  { id
    label := (Field.firstText m ["label", "name"]).getD id
    type := Field.text m "type"
    address := Field.text m "address"
    capacity := Field.text m "capacity" }

def ofValue (value : Value) (defaultId : String) (path : Path) : Except StructureError Site :=
  match value with
  | .text id => .ok (ofId id)
  | .mapping m => .ok (ofMapping m defaultId)
  | other => .error (.of path .mapping other)

def ofDocument (doc : Mapping) : Except StructureError (List Site) := do
  let items ← Field.list doc "sites" .root
  items.zipIdx.mapM fun (v, i) =>
    ofValue v ("site" ++ toString (i + 1)) ((Path.root.key "sites").index i)

def header (doc : Mapping) : Except StructureError (Option Site) :=
  match doc.get? "site" with
  | none | some .null => .ok none
  | some value => (ofValue value "site" (Path.root.key "site")).map some

end Site

end InfraDiagram

import InfraDiagram.Inventory.Device

/-!
# Racks

Racks with their mounted devices, in the two shapes in which documents give them: as a list of
racks, and as a mapping from rack ids to servers.

## Main definitions

- `Rack` — a rack and its devices in document order
- `Rack.ofDocument` — the racks of a list
- `Rack.ofServerDocument` — the racks of a list together with those of the mapping
- `Rack.displayOrder` — devices from the top of a rack to its bottom
-/

namespace InfraDiagram

/-- A rack and its mounted devices. -/
structure Rack where
  id : String
  label : String
  /-- In document order. -/
  devices : List Device
  deriving DecidableEq, Repr

namespace Rack

def ofValue (value : Value) (index : Nat) (path : Path) : Except StructureError Rack :=
  match value with
  | .text id => .ok ⟨id, id, []⟩
  | .mapping m => do
    let id := (Field.firstText m ["id", "name"]).getD ("rack" ++ toString (index + 1))
    let label := (Field.firstText m ["label", "name"]).getD id
    let devices ← Device.listIn m ["devices", "equipment"] id path "device"
    return ⟨id, label, devices⟩
  | other => .error (.of path .mapping other)

def ofDocument (doc : Mapping) : Except StructureError (List Rack) := do
  let entities ← Field.oneOrMany doc "rack" "racks" .root
  entities.zipIdx.mapM fun ((v, path), i) => ofValue v i path

/-- The servers of one entry of the mapping, and the label that it gives its rack. -/
def serverEntry (entry : Value) (path : Path) :
    Except StructureError (List Value × Option String) :=
  match entry with
  | .null => .ok ([], none)
  | .list items => .ok (items, none)
  | .mapping m => (Field.list m "servers" path).map fun items =>
    (items, Field.firstText m ["label", "name"])
  | other => .error (.of path .listOrMapping other)

/-- The servers of an entry as devices that follow those which the rack has already. -/
def mountedServers (rackId : String) (items : List Value) (path : Path) (already : Nat) :
    Except StructureError (List Device) :=
  items.zipIdx.mapM fun (v, i) => Device.ofValue v rackId (already + i) (path.index i) "server"

def devicesOf (racks : List Rack) (id : String) : Option (List Device) :=
  (racks.find? fun r => r.id == id).map (·.devices)

/-- Appends devices to the first rack with a given id, or adds a rack with them. -/
def mount (id label : String) (devices : List Device) : List Rack → List Rack
  | [] => [⟨id, label, devices⟩]
  | r :: rest =>
    if r.id = id then { r with devices := r.devices ++ devices } :: rest
    else r :: mount id label devices rest

def mountEntry (racks : List Rack) (member : String × Value) :
    Except StructureError (List Rack) := do
  let (id, entry) := member
  let path := (Path.root.key "rack_servers").key id
  let (items, label) ← serverEntry entry path
  let already := ((devicesOf racks id).getD []).length
  let devices ← mountedServers id items path already
  return mount id (label.getD id) devices racks

/-- The racks of a document that lists its servers by rack: the racks that it describes, then
    those that only the mapping names, in its order. -/
def ofServerDocument (doc : Mapping) : Except StructureError (List Rack) := do
  let racks ← ofDocument doc
  match ← Field.mapping (doc.get? "rack_servers") (Path.root.key "rack_servers") with
  | none => return racks
  | some entries => entries.foldlM mountEntry racks

/-- Whether a device stands above another or in its place: positioned devices above the others,
    higher units above lower ones, and document order among equals. -/
def standsAbove (a b : Device) : Bool :=
  if a.isPositioned != b.isPositioned then a.isPositioned
  else if a.rackUnit != b.rackUnit then b.rackUnit < a.rackUnit
  else a.order ≤ b.order

/-- The devices of a rack from top to bottom. -/
def displayOrder (devices : List Device) : List Device :=
  devices.mergeSort standsAbove

end Rack

end InfraDiagram

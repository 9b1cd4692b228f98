import InfraDiagram.Inventory.RackUnit
import InfraDiagram.Link.Endpoint

/-!
# Devices and ports

Devices, servers and groups of servers as they are listed in a document, with their ports.

## Main definitions

- `Port`, `Device` — the entities
- `Device.ofValue` — a device from its document; a bare string is its id
- `Device.listIn` — the devices under the first of several keys
- `Device.groupLabel` — the label of a group of servers that has none
-/

namespace InfraDiagram

/-- A port of a device. -/
structure Port where
  name : String
  label : String
  speed : Option String
  /-- What the port is connected to, as the port itself says. -/
  connectedTo : Option Endpoint
  deriving DecidableEq, Repr

/-- A device, a server or a group of servers. -/
structure Device where
  id : String
  label : String
  /-- The type of the device, by which connections may name it too. -/
  type : String
  model : Option String
  /-- The lowest rack unit; see `RackUnit.unpositioned`. -/
  rackUnit : Nat
  isGroup : Bool
  count : Option Nat
  zone : Option String
  /-- Further lines for a detailed label. -/
  details : List String
  ports : List Port
  /-- The place in the list that the device comes from. -/
  order : Nat
  deriving DecidableEq, Repr

namespace Port

def ofValue (value : Value) (index : Nat) (path : Path) : Except StructureError Port :=
  match value with
  | .text name => .ok ⟨name, name, none, none⟩
  | .mapping m =>
    let name := (Field.firstText m ["name", "id", "port"]).getD ("port" ++ toString (index + 1))
    let peer := ["connected_to", "connectedTo", "peer"].findSome? (Mapping.get? m)
    .ok
      { name
        label := (Field.text m "label").getD name
        speed := Field.text m "speed"
        connectedTo := peer.bind Endpoint.ofValue? }
  | other => .error (.of path .mapping other)

def listIn (device : Mapping) (path : Path) : Except StructureError (List Port) := do
  let (items, listPath) ← Field.listAlias device ["ports", "interfaces"] path
  items.zipIdx.mapM fun (v, i) => ofValue v i (listPath.index i)

end Port

namespace Device

/-- The type of a group of servers, which is drawn as one node. -/
def groupType : String := "server_group"

def detailFields : List (String × String) :=
  [("cpu", "CPU"), ("memory", "Memory"), ("storage", "Storage"), ("os", "OS"), ("ip", "IP"),
   ("management_ip", "Mgmt")]

def isPositioned (d : Device) : Bool :=
  d.rackUnit != RackUnit.unpositioned

/-- The label of a group of servers that has none: its model and the number of its machines. -/
def groupLabel (model : Option String) (count : Option Nat) : String :=
  let name := model.getD "Server Group"
  match count with
  | some n => name ++ " (" ++ toString n ++ "台)"
  | none => name

/-- A decimal number of machines that fits 64 bits, with or without a plus sign. -/
def countOfText? (s : String) : Option Nat :=
  let digits :=
    match (Text.trim s).toList with
    | '+' :: rest => rest
    | cs => cs
  if digits.isEmpty || !digits.all Text.isAsciiDigit then none
  else if Text.natOfDigits digits < 1 <<< 64 then some (Text.natOfDigits digits)
  else none

def countOfValue? : Value → Option Nat
  | .number (.int i) => if 0 ≤ i then some i.toNat else none
  | .text s => countOfText? s
  | _ => none

def ofId (id : String) (index : Nat) (defaultType : String) : Device :=
  { id, label := id, type := defaultType, model := none, rackUnit := RackUnit.unpositioned
    isGroup := false, count := none, zone := none, details := [], ports := [], order := index }

def detailLines (m : Mapping) : List String :=
  detailFields.filterMap fun (key, caption) =>
    (Field.text m key).map fun v => caption ++ ": " ++ v

/-- A device from its mapping. Without an id it is numbered within its parent. -/
def ofMapping (m : Mapping) (parent : String) (index : Nat) (path : Path) (defaultType : String) :
    Except StructureError Device := do
  let id := (Field.firstText m ["id", "name", "hostname"]).getD
    (parent ++ "_" ++ toString (index + 1))
  let type := (Field.firstText m ["type", "device_type"]).getD defaultType
  let model := Field.text m "model"
  let isGroup := type == groupType
  let count := (m.get? "count").bind countOfValue?
  let label := (Field.firstText m ["label", "name", "hostname"]).getD
    (if isGroup then groupLabel model count else model.getD id)
  let ports ← Port.listIn m path
  return {
    id, label, type, model, isGroup, count, ports
    rackUnit := RackUnit.start m
    zone := Field.firstText m ["zone", "group"]
    details := detailLines m
    order := index }

def ofValue (value : Value) (parent : String) (index : Nat) (path : Path) (defaultType : String) :
    Except StructureError Device :=
  match value with
  | .mapping m => ofMapping m parent index path defaultType
  | .text id => .ok (ofId id index defaultType)
  | other => .error (.of path .mapping other)

/-- The devices under the first of the keys that holds anything. -/
def listIn (m : Mapping) (keys : List String) (parent : String) (path : Path)
    (defaultType : String) : Except StructureError (List Device) := do
  let (items, listPath) ← Field.listAlias m keys path
  items.zipIdx.mapM fun (v, i) => ofValue v parent i (listPath.index i) defaultType

end Device

end InfraDiagram

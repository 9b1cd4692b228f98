import InfraDiagram.Drawing.Plan

/-!
# Zoned devices

Flat lists of devices, grouped by the zones they name: generic topologies, and network intents
with a note about what is intended.

## Main definitions

- `zonesOf` — the zones of a list of devices
- `drawZoned` — devices with a frame for each zone
- `Plan.topology`, `Plan.intent` — the plans for the two kinds of documents
-/

namespace InfraDiagram

open Dot

/-- The zones of devices in the order in which they first appear. -/
def zonesOf (devices : List Device) : List String :=
  (devices.filterMap (·.zone)).eraseDups

/-- Draws devices without a frame around them. -/
def drawDevices (devices : List Device) : Draw (List Placement) :=
  devices.mapM fun d => do
    let node ← declare (d.declaration .device false)
    return ⟨d.id, node, []⟩

/-- Draws devices without a zone, then a frame for each zone with its devices. Gives their places
    in the order of drawing. -/
def drawZoned (devices : List Device) : Draw (List Placement) := do
  let free ← drawDevices (devices.filter (·.zone.isNone))
  let zoned ← (zonesOf devices).mapM fun zone =>
    inCluster ("zone_" ++ zone) (Style.cluster (some zone))
      (drawDevices (devices.filter (·.zone == some zone)))
  return free ++ zoned.flatten

/-- The devices and connections of a topology. The connections inside of it come before those of
    the document around it. -/
def topologyScene (doc topology : Mapping) : Except StructureError Scene := do
  let path := Path.root.key "topology"
  let devices ← Device.listIn topology ["devices", "nodes"] "device" path "device"
  let (inner, innerPath) ← Field.listAlias topology ["connections", "links"] path
  let outer ← Field.list doc "connections" .root
  let links := Connection.decodeList inner .link innerPath .empty ++
    Connection.decodeList outer .link (Path.root.key "connections") .empty
  return {
    nodes := drawZoned devices
    resolver := .ofDevices devices
    links := links
    portLinks := [] }

/-- The plan for a topology. Its name is written as a comment before its devices are read. -/
def Plan.topology (doc : Mapping) : Plan :=
  match Field.mapping (doc.get? "topology") (Path.root.key "topology") with
  | .error e => .ofScene (.error e)
  | .ok none => .nothing
  | .ok (some topology) =>
    { comments := (Field.text topology "name").toList.map fun name => "topology: " ++ name
      scene := topologyScene doc topology }

/-- The note that describes an intent: its name, its description and its goals. -/
def intentNote (name : String) (intent : Mapping) (goals : List Value) : Declaration :=
  let goalLines := (goals.filterMap Value.text?).map fun goal => "• " ++ goal
  ⟨"intent_" ++ name, .intent, name,
    name :: ((Field.text intent "description").toList ++ goalLines), Style.intent⟩

def drawIntent (note : Declaration) (devices : List Device) : Draw (List Placement) := do
  let noteId ← declare note
  let placed ← drawZoned devices
  placed.head?.forM fun first => orderingEdge noteId first.node
  return placed

def intentScene (intent : Mapping) : Except StructureError Scene := do
  let path := Path.root.key "intent"
  let name := (Field.firstText intent ["name", "id"]).getD "intent"
  let devices ← Device.listIn intent ["devices", "endpoints"] "device" path "device"
  let (flows, flowsPath) ← Field.listAlias intent ["flows", "paths"] path
  let (goals, _) ← Field.listAlias intent ["goals", "requirements"] path
  return {
    nodes := drawIntent (intentNote name intent goals) devices
    resolver := .ofDevices devices
    links := Connection.decodeList flows .flow flowsPath .empty
    portLinks := [] }

def Plan.intent (doc : Mapping) : Plan :=
  .ofScene do
    match ← Field.mapping (doc.get? "intent") (Path.root.key "intent") with
    | none => return .nothing
    | some intent => intentScene intent

end InfraDiagram

import InfraDiagram.Diagram.Layout
import InfraDiagram.Diagram.Resolver
import InfraDiagram.Dot.Options
import InfraDiagram.Drawing.Style
import InfraDiagram.Inventory.Rack

/-!
# Drawing entities

The nodes and clusters of devices, ports and racks, as all kinds of diagrams share them.

## Main definitions

- `Placement` — where an entity stands on a diagram
- `Device.lines`, `Device.declaration` — the node of a device
- `Port.key`, `Port.draw` — the node of a port
- `Rack.draw` — the cluster of a rack
-/

namespace InfraDiagram

open Dot

/-- An entity that connections can name, as it stands on a diagram: its logical key, its node, and
    the nodes of those of its ports that were drawn, by the names of the ports. -/
structure Placement where
  key : String
  node : String
  ports : List (String × String)
  deriving DecidableEq, Repr, Inhabited

/-- The lines of a device's label: its label, its model unless the label begins with it, and on
    demand its rack unit. -/
def Device.lines (d : Device) (showUnit : Bool) : List String :=
  let model := d.model.toList.filter fun m => !m.toList.isPrefixOf d.label.toList
  let unit := if showUnit && d.isPositioned then ["U" ++ toString d.rackUnit] else []
  d.label :: (model ++ unit)

def Device.declaration (d : Device) (entity : EntityType) (showUnit : Bool) : Declaration :=
  ⟨d.id, entity, d.id, d.lines showUnit, Style.device d.type⟩

def Port.key (owner port : String) : String :=
  owner ++ ":" ++ port

def Port.declaration (owner : String) (p : Port) : Declaration :=
  ⟨Port.key owner p.name, .port, Port.key owner p.name, p.label :: p.speed.toList, Style.port⟩

/-- Declares the node of a port; gives the name of the port with it. -/
def Port.draw (owner : String) (p : Port) : Draw (String × String) := do
  let node ← declare (p.declaration owner)
  return (p.name, node)

def Rack.anchor (rack : Rack) : Declaration :=
  ⟨"rack_" ++ rack.id, .rack, rack.id, [rack.label], Style.anchor⟩

def Device.drawPorts (d : Device) : Draw (List (String × String)) :=
  d.ports.mapM fun p => p.draw d.id

/-- Declares the ports of a device and links each to the device's node. -/
def Device.drawLinkedPorts (d : Device) (node : String) : Draw (List (String × String)) :=
  d.ports.mapM fun p => do
    let port ← p.draw d.id
    edge node port.2 Style.portLink
    return port

/-- The place of a device whose node is declared, with its linked ports if ports are drawn. -/
def Device.placeAt (d : Device) (node : String) (options : RenderOptions) : Draw Placement := do
  let ports ← if options.includePorts then d.drawLinkedPorts node else pure []
  return ⟨d.id, node, ports⟩

/-- A rack on a diagram: its anchor, and the places of its devices from top to bottom. -/
structure RackPlacement where
  anchor : String
  devices : List Placement
  deriving DecidableEq, Repr, Inhabited

/-- Draws a rack as a cluster: its anchor, its devices from top to bottom, then their ports, all
    below each other. -/
def Rack.draw (rack : Rack) (entity : EntityType) (options : RenderOptions) :
    Draw RackPlacement :=
  inCluster rack.id (Style.cluster none) do
    let anchor ← declare rack.anchor
    let devices := Rack.displayOrder rack.devices
    let nodes ← devices.mapM fun d => declare (d.declaration entity true)
    let placed ← (devices.zip nodes).mapM fun (d, node) => d.placeAt node options
    orderChain (anchor :: (nodes ++ placed.flatMap fun p => p.ports.map Prod.snd))
    return ⟨anchor, placed⟩

end InfraDiagram

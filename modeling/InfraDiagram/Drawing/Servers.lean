import InfraDiagram.Drawing.Plan

/-!
# Server details

Single servers with their ports, the equipment around them, and the links that the ports declare.

## Main definitions

- `Device.drawServer` — the cluster of a server with the cluster of its ports
- `portLinks` — the connections that ports declare
- `Plan.serverDetails` — the plan for server details
-/

namespace InfraDiagram

open Dot

/-- Draws the ports of a server below each other in a frame of their own, below the anchor. -/
def Device.drawPortFrame (server : Device) (anchor : String) :
    Draw (List (String × String)) := do
  let ports ← inCluster (server.id ++ "_ports") (Style.cluster (some "Ports")) do
    let ports ← server.drawPorts
    orderChain (ports.map Prod.snd)
    return ports
  ports.head?.forM fun first => orderingEdge anchor first.2
  return ports

def Device.serverDeclaration (server : Device) : Declaration :=
  ⟨server.id, .server, server.id, server.lines true ++ server.details, Style.anchor⟩

def Device.drawServer (server : Device) (options : RenderOptions) : Draw Placement :=
  inCluster server.id (Style.cluster none) do
    let anchor ← declare server.serverDeclaration
    let ports ←
      if options.includePorts && !server.ports.isEmpty then server.drawPortFrame anchor
      else pure []
    return ⟨server.id, anchor, ports⟩

def Device.peerDeclaration (d : Device) : Declaration :=
  ⟨d.id, .peer, d.id, d.lines false, Style.peer d.type⟩

def Device.drawPeer (d : Device) : Draw Placement := do
  let node ← declare d.peerDeclaration
  return ⟨d.id, node, []⟩

def Port.link? (server : Device) (p : Port) (index : Nat) : Option Connection :=
  p.connectedTo.map fun peer =>
    { source := ⟨server.id, some p.name⟩
      target := peer
      label := p.speed.toList
      style := .solid
      category := .link
      context := server.id ++ ".ports[" ++ toString index ++ "].connected_to" }

def portLinks (servers : List Device) : List Connection :=
  servers.flatMap fun server =>
    server.ports.zipIdx.filterMap fun (p, i) => p.link? server i

/-- Draws servers below each other, and the equipment around them. -/
def drawServers (servers peers : List Device) (options : RenderOptions) :
    Draw (List Placement) := do
  let placed ← servers.mapM fun s => s.drawServer options
  orderChain (placed.map (·.node))
  let around ← peers.mapM Device.drawPeer
  return placed ++ around

def Plan.serverDetails (doc : Mapping) (options : RenderOptions) : Plan :=
  .ofScene do
    let entities ← Field.oneOrMany doc "server" "servers" .root
    let servers ← entities.zipIdx.mapM fun ((v, path), i) =>
      Device.ofValue v "server" i path "server"
    let peers ← Device.listIn doc ["devices", "peers"] "peer" .root "device"
    let cabling ← Connection.ofEquipment doc (.ofDocument doc)
    return {
      nodes := drawServers servers peers options
      resolver := .ofDevices (servers ++ peers)
      links := cabling
      portLinks := InfraDiagram.portLinks servers }

end InfraDiagram

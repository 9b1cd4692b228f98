import InfraDiagram.Drawing.Entity
import InfraDiagram.Link.Connection

/-!
# Wiring

Connections as edges between the nodes that were drawn.

## Main definitions

- `Attachment` — where an edge ends
- `attach` — the place of one end of a connection
- `connect`, `connectAll` — the edges of connections
-/

namespace InfraDiagram

open Dot

/-- Where an edge ends, and the port to print there if the port has no node. -/
structure Attachment where
  id : String
  portLabel : Option String
  deriving DecidableEq, Repr

/-- The place of an end on a canvas, or why there is none. A port that was drawn is the place
    itself; otherwise the edge ends at the device and prints the port. -/
def Endpoint.place (e : Endpoint) (resolver : Resolver) (c : Canvas) :
    Except Unresolved Attachment :=
  (resolver.resolve e.device c).map fun device =>
    match e.port with
    | none => ⟨device.graphId, none⟩
    | some port =>
      match c.lookup (Port.key device.key port) with
      | some portId => ⟨portId, none⟩
      | none => ⟨device.graphId, some port⟩

/-- The place of an end; an end that names no node is reported. -/
def attach (resolver : Resolver) (e : Endpoint) (context : String) : Draw (Option Attachment) := do
  match e.place resolver (← get) with
  | .ok a => return some a
  | .error reason =>
    warn (.unresolvedEndpoint e.device reason.reason context)
    return none

/-- The attributes of an edge with the ports to print at its ends. -/
def endLabels (attrs : Attrs) (source target : Attachment) : Attrs :=
  let tailed := (source.portLabel.map (attrs.text "taillabel")).getD attrs
  (target.portLabel.map (tailed.text "headlabel")).getD tailed

def connect (resolver : Resolver) (c : Connection) : Draw Unit := do
  let source ← attach resolver c.source c.context
  let target ← attach resolver c.target c.context
  match source, target with
  | some s, some t => edge s.id t.id (endLabels c.edgeAttrs s t)
  | _, _ => return ()

/-- Reports the problems of decoded records and draws the connections. -/
def connectAll (resolver : Resolver) (decoded : Connection.Decoded) : Draw Unit := do
  decoded.problems.forM warn
  decoded.connections.forM (connect resolver)

end InfraDiagram

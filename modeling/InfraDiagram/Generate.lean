import InfraDiagram.Dot.Printer
import InfraDiagram.Drawing.BareLinks
import InfraDiagram.Drawing.Racks
import InfraDiagram.Drawing.Servers
import InfraDiagram.Drawing.SingleDevice
import InfraDiagram.Drawing.Sites
import InfraDiagram.Drawing.Zones
import InfraDiagram.Schema

/-!
# Generating diagrams

From a document to its diagram.

## Main definitions

- `Plan.ofKind` — the plan for a document of a given kind
- `Generated` — what a run yields: the kind, the DOT program, the node map and the problems
- `generate` — one run
-/

namespace InfraDiagram

open Dot

/-- The comment in the place of a diagram that nobody knows how to draw. -/
def unknownComment : String :=
  "unrecognized document schema: no diagram generated"

/-- The plan for a document that is not recognized: an empty diagram with a comment. -/
def Plan.unknown (doc : Mapping) : Plan :=
  { comments := [unknownComment]
    scene := .ok
      { Scene.nothing with nodes := do
          warn (.unknownSchema doc.keys)
          return [] } }

def Plan.ofKind (kind : Kind) (doc : Mapping) (options : RenderOptions) : Plan :=
  match kind with
  | .siteTopology => .sites doc
  | .siteEquipment => .siteEquipment doc options
  | .rackServers => .rackServers doc options
  | .serverDetails => .serverDetails doc options
  | .topology => .topology doc
  | .device => .device doc options
  | .links => .links doc
  | .intent => .intent doc
  | .unknown => .unknown doc

/-- The result of a run. -/
structure Generated where
  kind : Kind
  diagram : Diagram
  dot : String
  deriving Inhabited

def Generated.nodeMap (g : Generated) : NodeMap := g.diagram.nodeMap

def Generated.diagnostics (g : Generated) : List Diagnostic := g.diagram.diagnostics

def drawDocument (kind : Kind) (doc : Mapping) (options : RenderOptions) :
    Except StructureError Diagram :=
  let (result, canvas) := (Plan.ofKind kind doc options).run.run Canvas.blank
  result.map fun _ => canvas.finish

/-- The diagram of a document, or why it cannot be drawn. -/
def generate (doc : Value) (options : RenderOptions) : Except StructureError Generated :=
  match doc with
  | .mapping m =>
    let kind := classifyMapping m
    (drawDocument kind m options).map fun diagram =>
      ⟨kind, diagram, diagram.graph.toDot options⟩
  | other => .error (.of .root .mapping other)

end InfraDiagram

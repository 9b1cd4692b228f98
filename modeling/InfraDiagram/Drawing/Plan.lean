import InfraDiagram.Document.Path
import InfraDiagram.Drawing.Wiring

/-!
# Plans

What is to be drawn for a document. A document is read as a whole before anything of it is drawn,
so a plan is either an error or a scene; only comments may come before the error.

## Main definitions

- `Scene` — the nodes of a document, and the connections between them
- `Scene.draw` — draws the nodes, then the connections
- `Plan` — comments, then a scene or an error
- `Plan.run` — carries out a plan

## Design notes

All nodes are drawn before the first connection, so what a connection becomes depends on the nodes
alone and not on the connections before it.
-/

namespace InfraDiagram

/-- What is to be drawn: nodes, the connections that records describe, and the connections that
    ports declare themselves, which come last. -/
structure Scene where
  /-- Draws the nodes; gives the places of the entities that connections can name. -/
  nodes : Draw (List Placement)
  resolver : Resolver
  links : Connection.Decoded
  portLinks : List Connection

namespace Scene

def nothing : Scene :=
  ⟨pure [], ⟨[]⟩, .empty, []⟩

def connections (s : Scene) : Connection.Decoded :=
  s.links ++ ⟨s.portLinks, []⟩

def draw (s : Scene) : Draw Unit := do
  let _ ← s.nodes
  connectAll s.resolver s.connections

end Scene

/-- Comments that are written in any case, and the scene that follows, or why there is none. -/
structure Plan where
  comments : List String
  scene : Except StructureError Scene

namespace Plan

def ofScene (scene : Except StructureError Scene) : Plan :=
  ⟨[], scene⟩

def nothing : Plan :=
  ofScene (.ok .nothing)

def run (p : Plan) : Draw (Except StructureError Unit) := do
  p.comments.forM comment
  match p.scene with
  | .ok scene =>
    scene.draw
    return .ok ()
  | .error e => return .error e

end Plan

end InfraDiagram

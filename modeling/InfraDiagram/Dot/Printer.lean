import InfraDiagram.Dot.Graph
import InfraDiagram.Dot.Id
import InfraDiagram.Dot.Options

/-!
# Printing graphs

A graph as the text of a DOT program, in a fixed order of sections: header and defaults, nodes,
ordering edges, clusters, the group of equal rank, visible edges. A blank line stands before each
section that is there.

## Main definitions

- `Graph.toDot` — the program
- `Cluster.toDot`, `Node.toDot`, `Edge.toDot` — its statements, a line each

## Design notes

Identifiers and attribute values are in their final form already, so printing only lays them out.
A graph with nothing to draw is a header, its comments and a closing brace.
-/

namespace InfraDiagram.Dot

/-- Two spaces for each level. -/
def indent (depth : Nat) : String :=
  String.ofList (List.replicate (2 * depth) ' ')

def concat (texts : List String) : String :=
  String.join texts

/-- Attributes in brackets behind a space; nothing if there are none. -/
def Attrs.toDot (attrs : Attrs) : String :=
  if attrs.isEmpty then ""
  else " [" ++ ", ".intercalate (attrs.entries.map fun (k, v) => k ++ "=" ++ v) ++ "]"

def Node.toDot (depth : Nat) (n : Node) : String :=
  indent depth ++ n.id ++ n.attrs.toDot ++ ";\n"

def Edge.toDot (depth : Nat) (e : Edge) : String :=
  indent depth ++ e.source ++ " -> " ++ e.target ++ e.attrs.toDot ++ ";\n"

mutual

/-- The block of a cluster: attributes, nodes, inner clusters, ordering edges. -/
def Cluster.toDot (depth : Nat) : Cluster → String
  | ⟨id, attrs, nodes, clusters, ordering⟩ =>
    indent depth ++ "subgraph " ++ id ++ " \x7b\n" ++
      concat (attrs.entries.map fun (k, v) => indent (depth + 1) ++ k ++ "=" ++ v ++ ";\n") ++
      concat (nodes.map (Node.toDot (depth + 1))) ++
      Cluster.toDotAll (depth + 1) clusters ++
      concat (ordering.map (Edge.toDot (depth + 1))) ++
      indent depth ++ "\x7d\n"

def Cluster.toDotAll (depth : Nat) : List Cluster → String
  | [] => ""
  | c :: rest => c.toDot depth ++ Cluster.toDotAll depth rest

end

/-- The default attributes of the graph, its nodes and its edges. -/
def defaults (options : RenderOptions) : List (String × Attrs) :=
  let font := "\"" ++ Text.escapeLabel options.font ++ "\""
  [("graph", ⟨[("rankdir", options.rankDir.word), ("fontname", font), ("fontsize", "11"),
    ("compound", "true"), ("newrank", "true"), ("nodesep", "0.35"), ("ranksep", "0.25")]⟩),
   ("node", ⟨[("fontname", font), ("fontsize", "10"), ("shape", "box"),
    ("style", "\"rounded,filled\""), ("fillcolor", "\"#FFFFFF\"")]⟩),
   ("edge", ⟨[("fontname", font), ("fontsize", "9")]⟩)]

def defaultsToDot (d : String × Attrs) : String :=
  indent 1 ++ d.1 ++ d.2.toDot ++ ";\n"

/-- Statements behind a blank line; nothing if there are none. -/
def part (statements : List String) : String :=
  if statements.isEmpty then "" else "\n" ++ concat statements

def rankGroup (ids : List String) : List String :=
  if ids.isEmpty then []
  else [indent 1 ++ "\x7b rank=same; " ++ "; ".intercalate ids ++ "; \x7d\n"]

def Graph.body (g : Graph) (options : RenderOptions) : String :=
  concat ((defaults options).map defaultsToDot) ++
    part (g.nodes.map (Node.toDot 1)) ++
    part (g.ordering.map (Edge.toDot 1)) ++
    concat (g.clusters.map fun c => part [c.toDot 1]) ++
    part (rankGroup g.sameRank) ++
    part (g.edges.map (Edge.toDot 1))

def Graph.toDot (g : Graph) (options : RenderOptions) : String :=
  "digraph " ++ Id.ofName options.graphName ++ " \x7b\n" ++
    concat (g.comments.map fun c => indent 1 ++ "// " ++ c ++ "\n") ++
    (if g.isEmpty then "" else g.body options) ++
    "\x7d\n"

end InfraDiagram.Dot

import InfraDiagram.Dot.Attrs

/-!
# Graphs

The directed graph that is printed as a DOT program: nodes, a tree of clusters, invisible edges
that order nodes, one group of nodes on a common rank, and the visible edges.

## Main definitions

- `Node`, `Edge`, `Cluster`, `Graph` — the parts, each list in the order of printing
- `Graph.declaredIds` — the identifiers of all nodes, clusters included
- `Graph.isEmpty` — whether there is anything to draw
-/

namespace InfraDiagram.Dot

/-- A declared node and the logical key it was declared under. -/
structure Node where
  id : String
  key : String
  attrs : Attrs
  deriving DecidableEq, Inhabited

/-- An edge between two identifiers. -/
structure Edge where
  source : String
  target : String
  attrs : Attrs
  deriving DecidableEq, Inhabited

/-- A block of nodes with a frame, which may hold further blocks. -/
structure Cluster where
  id : String
  attrs : Attrs
  nodes : List Node
  clusters : List Cluster
  /-- Invisible edges that belong to the block. -/
  ordering : List Edge
  deriving Inhabited

/-- A whole graph. -/
structure Graph where
  comments : List String
  nodes : List Node
  /-- Invisible edges outside of all clusters. -/
  ordering : List Edge
  clusters : List Cluster
  /-- The identifiers that share one rank. -/
  sameRank : List String
  /-- Visible edges. -/
  edges : List Edge
  deriving Inhabited

def Cluster.empty (id : String) (attrs : Attrs) : Cluster :=
  ⟨id, attrs, [], [], []⟩

mutual

/-- The nodes of a cluster: its own, then those of its inner clusters. -/
def Cluster.allNodes : Cluster → List Node
  | ⟨_, _, nodes, clusters, _⟩ => nodes ++ Cluster.allNodesOf clusters

def Cluster.allNodesOf : List Cluster → List Node
  | [] => []
  | c :: rest => c.allNodes ++ Cluster.allNodesOf rest

end

namespace Graph

def empty : Graph := ⟨[], [], [], [], [], []⟩

/-- Whether there is nothing to draw; comments do not count. -/
def isEmpty (g : Graph) : Bool :=
  g.nodes.isEmpty && g.clusters.isEmpty && g.edges.isEmpty && g.ordering.isEmpty

def allNodes (g : Graph) : List Node :=
  g.nodes ++ Cluster.allNodesOf g.clusters

def declaredIds (g : Graph) : List String :=
  g.allNodes.map (·.id)

end Graph

end InfraDiagram.Dot

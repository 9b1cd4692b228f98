import InfraDiagram.Dot.Graph
import InfraDiagram.Diagram.Allocation
import InfraDiagram.Diagram.Diagnostic
import InfraDiagram.Diagram.NodeMap

/-!
# The canvas

The state of a diagram while it is drawn: the graph so far, the clusters that are open, the
identifiers and keys that are taken, and the problems that were found.

## Main definitions

- `Canvas` — the state, with `Canvas.blank` to begin with
- `Draw` — steps that change it
- `declare`, `inCluster`, `edge`, `orderingEdge`, `sameRank`, `comment`, `warn` — the steps
- `Canvas.lookup`, `Canvas.lookupDevice` — the nodes declared so far
- `Canvas.finish` — the finished diagram

## Design notes

An identifier is allocated once for each declaration and returned to the caller, who builds edges
from it; an edge is only drawn between declared identifiers. The open clusters form a stack, the
innermost first, and a closed cluster is appended to the one around it.
-/

namespace InfraDiagram

open Dot

/-- A node to be declared. -/
structure Declaration where
  /-- The logical key, from which the identifier is made. -/
  key : String
  entity : EntityType
  sourceId : String
  label : List String
  attrs : Attrs
  deriving DecidableEq, Inhabited

/-- A diagram while it is drawn. -/
structure Canvas where
  graph : Graph
  /-- Open clusters, the innermost first. -/
  scopes : List Cluster
  nodeIds : IdPool
  clusterIds : IdPool
  nodeMap : NodeMap
  /-- Identifiers by device key; the first declaration of a key counts. -/
  devices : List (String × String)
  /-- The identifiers of the declared nodes. -/
  declared : List String
  diagnostics : List Diagnostic
  deriving Inhabited

abbrev Draw := StateM Canvas

namespace Canvas

def blank : Canvas :=
  ⟨Graph.empty, [], IdPool.empty, IdPool.empty, NodeMap.empty, [], [], []⟩

def lookup (c : Canvas) (key : String) : Option String :=
  (c.nodeMap.find? key).map (·.graphNodeId)

/-- The identifier of the device declared first under a key; anchors and ports never match. -/
def lookupDevice (c : Canvas) (key : String) : Option String :=
  c.devices.lookup key

def bothDeclared (c : Canvas) (source target : String) : Bool :=
  c.declared.contains source && c.declared.contains target

def report (c : Canvas) (d : Diagnostic) : Canvas :=
  { c with diagnostics := c.diagnostics ++ [d] }

/-- Puts a node into the innermost open cluster, or at top level. -/
def placeNode (c : Canvas) (n : Node) : Canvas :=
  match c.scopes with
  | inner :: outer => { c with scopes := { inner with nodes := inner.nodes ++ [n] } :: outer }
  | [] => { c with graph := { c.graph with nodes := c.graph.nodes ++ [n] } }

/-- Puts an ordering edge into the innermost open cluster, or at top level. -/
def placeOrdering (c : Canvas) (e : Edge) : Canvas :=
  match c.scopes with
  | inner :: outer =>
    { c with scopes := { inner with ordering := inner.ordering ++ [e] } :: outer }
  | [] => { c with graph := { c.graph with ordering := c.graph.ordering ++ [e] } }

/-- Puts a closed cluster into the one around it, or at top level. -/
def placeCluster (c : Canvas) (closed : Cluster) : Canvas :=
  match c.scopes with
  | inner :: outer =>
    { c with scopes := { inner with clusters := inner.clusters ++ [closed] } :: outer }
  | [] => { c with graph := { c.graph with clusters := c.graph.clusters ++ [closed] } }

def openCluster (c : Canvas) (key : String) (attrs : Attrs) : Canvas :=
  let ((id, _), ids) := c.clusterIds.allocate ("cluster_" ++ key)
  { c with clusterIds := ids, scopes := Cluster.empty id attrs :: c.scopes }

def closeCluster (c : Canvas) : Canvas :=
  match c.scopes with
  | inner :: outer => { c with scopes := outer }.placeCluster inner
  | [] => c

def numberedKey (key : String) (n : Nat) : String :=
  key ++ "#" ++ toString n

/-- The key itself if it is free, else the numbered key with the least number. -/
def freeKey (m : NodeMap) (key : String) : String :=
  if m.contains key then
    numberedKey key (leastFree (m.entries.map Prod.fst) (numberedKey key))
  else key

/-- Makes room for a device at its own key: an entry of another sort that holds the key moves to
    a free one. -/
def displace (m : NodeMap) (key : String) : NodeMap :=
  match m.find? key with
  | some previous =>
    if previous.entityType.isDevice then m
    else (m.erase key).insert (freeKey m key) previous
  | none => m

def enter (m : NodeMap) (key : String) (ref : NodeRef) : NodeMap :=
  let m := if ref.entityType.isDevice then displace m key else m
  m.insert (freeKey m key) ref

/-- The label lines of a declaration; the source id stands in for lines that are all blank. -/
def labelLines (d : Declaration) : List String :=
  if d.label.any fun line => !Text.isBlank line then d.label else [d.sourceId]

def displayLabel (lines : List String) : String :=
  (lines.find? fun line => !Text.isBlank line).getD ""

/-- The attributes of a declared node: its label, and what the declaration says over it. -/
def nodeAttrs (d : Declaration) : Attrs :=
  (Attrs.empty.lines "label" (labelLines d)).merge d.attrs

/-- The entry of the node map for a declaration that got an identifier. -/
def refOf (d : Declaration) (id : String) : NodeRef :=
  ⟨id, d.entity, d.sourceId, displayLabel (labelLines d)⟩

/-- Registers a declaration: gives it an identifier and an entry in the node map. A number on the
    identifier is reported. -/
def register (c : Canvas) (d : Declaration) : String × Canvas :=
  let ((id, numbered), ids) := c.nodeIds.allocate d.key
  (id, { c with
    nodeIds := ids
    nodeMap := enter c.nodeMap d.key (refOf d id)
    devices :=
      if d.entity.isDevice && (c.devices.lookup d.key).isNone then c.devices ++ [(d.key, id)]
      else c.devices
    declared := id :: c.declared
    diagnostics :=
      if numbered then c.diagnostics ++ [.identifierCollision d.key (Id.ofName d.key) id]
      else c.diagnostics })

/-- Declares a node in the innermost open cluster; gives its identifier. -/
def declareNode (c : Canvas) (d : Declaration) : String × Canvas :=
  let (id, c) := c.register d
  (id, c.placeNode ⟨id, d.key, nodeAttrs d⟩)

/-- Adds identifiers that are declared and not there yet to the group of equal rank. -/
def addSameRank (c : Canvas) (ids : List String) : Canvas :=
  let group := ids.foldl
    (fun group id =>
      if c.declared.contains id && !group.contains id then group ++ [id] else group)
    c.graph.sameRank
  { c with graph := { c.graph with sameRank := group } }

end Canvas

/-- Declares a node in the innermost open cluster and returns its identifier. -/
def declare (d : Declaration) : Draw String :=
  fun c => c.declareNode d

/-- Opens a cluster, draws in it, and closes it. -/
def inCluster {α : Type} (key : String) (attrs : Attrs) (body : Draw α) : Draw α := do
  modify fun c => c.openCluster key attrs
  let result ← body
  modify Canvas.closeCluster
  return result

def warn (d : Diagnostic) : Draw Unit :=
  modify fun c => c.report d

/-- Draws a visible edge, or reports it if an end is not declared. -/
def edge (source target : String) (attrs : Attrs) : Draw Unit :=
  modify fun c =>
    if c.bothDeclared source target then
      { c with graph := { c.graph with edges := c.graph.edges ++ [⟨source, target, attrs⟩] } }
    else c.report (.danglingEdge source target)

/-- Puts one node before another by an invisible edge in the innermost open cluster, or reports
    the edge if an end is not declared. -/
def orderingEdge (source target : String) : Draw Unit :=
  modify fun c =>
    if c.bothDeclared source target then
      c.placeOrdering ⟨source, target, Attrs.empty.raw "style" "invis"⟩
    else c.report (.danglingEdge source target)

def sameRank (ids : List String) : Draw Unit :=
  modify fun c => c.addSameRank ids

/-- Adds a comment line; control characters are left out of it. -/
def comment (text : String) : Draw Unit :=
  modify fun c =>
    { c with graph := { c.graph with
        comments := c.graph.comments ++ [Text.withoutControls text] } }

/-- A finished diagram. -/
structure Diagram where
  graph : Graph
  nodeMap : NodeMap
  diagnostics : List Diagnostic
  deriving Inhabited

/-- The finished diagram; clusters that are still open are closed first. -/
def Canvas.finish (c : Canvas) : Diagram :=
  let closed := (List.range c.scopes.length).foldl (fun c _ => c.closeCluster) c
  ⟨closed.graph, closed.nodeMap, closed.diagnostics⟩

end InfraDiagram

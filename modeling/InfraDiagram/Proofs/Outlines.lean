import InfraDiagram.Proofs.Steps

/-!
# Outlines

Without its visible edges, a graph is a tree of clusters, and a canvas has some of them still open.
A step of drawing appends a layer to the innermost open cluster, or it opens or closes a cluster.
Whatever items are gathered from a whole tree, such as all of its nodes, a step therefore changes
them in one of few ways, and these are worked out here once for all kinds of items.

## Main definitions

- `Layer` — what is appended to a cluster
- `Outline` — a canvas as far as its nodes, clusters and ordering edges go
- `Canvas.grow`, `Outline.grow` — a layer that is appended to the innermost open cluster
- `Gathering` — a way to gather items from a tree of clusters
- `Canvas.allNodes`, `Canvas.clusterNames`, `Canvas.allOrdering` — the nodes, the names of clusters
  and the ordering edges of a canvas, open clusters included

## Main statements

- `Canvas.placeNode_eq_grow`, `Canvas.placeOrdering_eq_grow`, `Canvas.closeCluster_cases` — steps that
  append a layer
- `Gathering.outline_grow` — a new layer adds the items of this layer
- `Gathering.outline_apply`, `Gathering.forall_run` — the items after a step, and after a run
- `Gathering.layer_finish` — a finished diagram has the items of its canvas
-/

namespace InfraDiagram

open Dot

-- ════════════════════════════════════════════════════════════════════════
-- Layers
-- ════════════════════════════════════════════════════════════════════════

/-- What is appended to a cluster. -/
structure Layer where
  nodes : List Node
  clusters : List Cluster
  ordering : List Edge

namespace Layer

def empty : Layer := ⟨[], [], []⟩

def append (a b : Layer) : Layer :=
  ⟨a.nodes ++ b.nodes, a.clusters ++ b.clusters, a.ordering ++ b.ordering⟩

instance : Append Layer := ⟨append⟩

/-- The identifiers of all nodes of a layer. -/
def ids (l : Layer) : List String :=
  (l.nodes ++ Cluster.allNodesOf l.clusters).map (·.id)

def ofNode (n : Node) : Layer := ⟨[n], [], []⟩

def ofCluster (c : Cluster) : Layer := ⟨[], [c], []⟩

def ofOrdering (es : List Edge) : Layer := ⟨[], [], es⟩

@[simp]
theorem nodes_append (a b : Layer) : (a ++ b).nodes = a.nodes ++ b.nodes := rfl

@[simp]
theorem clusters_append (a b : Layer) : (a ++ b).clusters = a.clusters ++ b.clusters := rfl

@[simp]
theorem ordering_append (a b : Layer) : (a ++ b).ordering = a.ordering ++ b.ordering := rfl

@[simp]
theorem append_empty (a : Layer) : a ++ empty = a := by
  obtain ⟨nodes, clusters, ordering⟩ := a
  change Layer.mk (nodes ++ []) (clusters ++ []) (ordering ++ []) = _
  simp only [List.append_nil]

@[simp]
theorem empty_append (a : Layer) : empty ++ a = a := rfl

theorem append_assoc (a b c : Layer) : a ++ b ++ c = a ++ (b ++ c) := by
  change Layer.mk (_ ++ _ ++ _) (_ ++ _ ++ _) (_ ++ _ ++ _) = Layer.mk _ _ _
  simp only [List.append_assoc]
  rfl

end Layer

/-- What a cluster consists of besides its name and its frame. -/
def Dot.Cluster.layer (c : Cluster) : Layer :=
  ⟨c.nodes, c.clusters, c.ordering⟩

def Dot.Graph.layer (g : Graph) : Layer :=
  ⟨g.nodes, g.clusters, g.ordering⟩

/-- A cluster with a layer appended to what it consists of. -/
def Dot.Cluster.grow (c : Cluster) (l : Layer) : Cluster :=
  { c with
    nodes := c.nodes ++ l.nodes
    clusters := c.clusters ++ l.clusters
    ordering := c.ordering ++ l.ordering }

def Dot.Graph.grow (g : Graph) (l : Layer) : Graph :=
  { g with
    nodes := g.nodes ++ l.nodes
    clusters := g.clusters ++ l.clusters
    ordering := g.ordering ++ l.ordering }

-- ════════════════════════════════════════════════════════════════════════
-- Outlines
-- ════════════════════════════════════════════════════════════════════════

/-- The graph without its visible edges, and the open clusters. -/
structure Outline where
  graph : Graph
  scopes : List Cluster

namespace Outline

/-- Appends a layer to the innermost open cluster, or at top level. -/
def grow (o : Outline) (l : Layer) : Outline :=
  match o.scopes with
  | inner :: outer =>
    { o with scopes := { inner with
        nodes := inner.nodes ++ l.nodes
        clusters := inner.clusters ++ l.clusters
        ordering := inner.ordering ++ l.ordering } :: outer }
  | [] =>
    { o with graph := { o.graph with
        nodes := o.graph.nodes ++ l.nodes
        clusters := o.graph.clusters ++ l.clusters
        ordering := o.graph.ordering ++ l.ordering } }

def close (o : Outline) : Outline :=
  match o.scopes with
  | inner :: outer => grow { o with scopes := outer } (.ofCluster inner)
  | [] => o

@[simp]
theorem grow_empty (o : Outline) : o.grow .empty = o := by
  obtain ⟨graph, _ | ⟨⟨id, attrs, nodes, clusters, ordering⟩, outer⟩⟩ := o <;>
    simp [grow, Layer.empty]

theorem grow_grow (o : Outline) (l l' : Layer) : (o.grow l).grow l' = o.grow (l ++ l') := by
  obtain ⟨graph, _ | ⟨inner, outer⟩⟩ := o <;> simp [grow]

/-- A cluster that is opened, drawn in and closed is a layer of the cluster around it. -/
theorem close_grow_open (o : Outline) (id : String) (attrs : Attrs) (l : Layer) :
    (grow { o with scopes := Cluster.empty id attrs :: o.scopes } l).close =
      o.grow (.ofCluster ⟨id, attrs, l.nodes, l.clusters, l.ordering⟩) := by
  simp only [grow, close, Cluster.empty, List.nil_append]

end Outline

namespace Canvas

def outline (c : Canvas) : Outline :=
  ⟨{ c.graph with edges := [] }, c.scopes⟩

/-- Appends a layer to the innermost open cluster, or at top level. -/
def grow (c : Canvas) (l : Layer) : Canvas :=
  match c.scopes with
  | inner :: outer => { c with scopes := inner.grow l :: outer }
  | [] => { c with graph := c.graph.grow l }

theorem placeNode_eq_grow (c : Canvas) (n : Node) : c.placeNode n = c.grow (.ofNode n) := by
  unfold placeNode grow
  cases c.scopes <;> simp [Cluster.grow, Graph.grow, Layer.ofNode]

theorem placeOrdering_eq_grow (c : Canvas) (e : Edge) :
    c.placeOrdering e = c.grow (.ofOrdering [e]) := by
  unfold placeOrdering grow
  cases c.scopes <;> simp [Cluster.grow, Graph.grow, Layer.ofOrdering]

theorem placeCluster_eq_grow (c : Canvas) (closed : Cluster) :
    c.placeCluster closed = c.grow (.ofCluster closed) := by
  unfold placeCluster grow
  cases c.scopes <;> simp [Cluster.grow, Graph.grow, Layer.ofCluster]

/-- The innermost open cluster becomes a layer of the one around it, if there is one. -/
theorem closeCluster_cases (c : Canvas) :
    (c.scopes = [] ∧ c.closeCluster = c) ∨ ∃ inner outer, c.scopes = inner :: outer ∧
      c.closeCluster = grow { c with scopes := outer } (.ofCluster inner) := by
  unfold closeCluster
  split
  · rename_i inner outer hscopes
    exact .inr ⟨inner, outer, hscopes, placeCluster_eq_grow ..⟩
  · rename_i hscopes
    exact .inl ⟨hscopes, rfl⟩

theorem outline_grow (c : Canvas) (l : Layer) : (c.grow l).outline = c.outline.grow l := by
  unfold grow outline Outline.grow
  cases c.scopes <;> rfl

theorem outline_placeNode (c : Canvas) (n : Node) :
    (c.placeNode n).outline = c.outline.grow (.ofNode n) := by
  rw [placeNode_eq_grow, outline_grow]

theorem outline_declareNode (c : Canvas) (d : Declaration) :
    (c.declareNode d).2.outline =
      c.outline.grow (.ofNode ⟨(c.declareNode d).1, d.key, nodeAttrs d⟩) :=
  (c.register d).2.outline_placeNode _

theorem outline_placeOrdering (c : Canvas) (e : Edge) :
    (c.placeOrdering e).outline = c.outline.grow (.ofOrdering [e]) := by
  rw [placeOrdering_eq_grow, outline_grow]

theorem outline_closeCluster (c : Canvas) : c.closeCluster.outline = c.outline.close := by
  rcases c.closeCluster_cases with ⟨hscopes, hclose⟩ | ⟨inner, outer, hscopes, hclose⟩
  · rw [hclose]
    simp only [Outline.close, outline, hscopes]
  · rw [hclose, outline_grow]
    simp only [Outline.close, outline, hscopes]

theorem outline_openCluster (c : Canvas) (key : String) (attrs : Attrs) :
    (c.openCluster key attrs).outline =
      { c.outline with
        scopes := Cluster.empty (c.clusterIds.choose ("cluster_" ++ key)).1 attrs ::
          c.outline.scopes } := rfl

end Canvas

-- ════════════════════════════════════════════════════════════════════════
-- Gathering items from a tree
-- ════════════════════════════════════════════════════════════════════════

theorem flatMap_const_nil {α β : Type} (xs : List α) : xs.flatMap (fun _ => ([] : List β)) = [] :=
  List.flatMap_eq_nil_iff.2 fun _ _ => rfl

/-- A way to gather items from a tree of clusters: a cluster gives the items of its name, of its
    nodes, of its ordering edges and of the clusters within it. -/
structure Gathering (α : Type) where
  name : String → List α
  node : Node → List α
  edge : Edge → List α
  cluster : Cluster → List α
  clusters : List Cluster → List α
  cluster_eq : ∀ c : Cluster, cluster c =
    name c.id ++ (c.nodes.flatMap node ++ c.ordering.flatMap edge ++ clusters c.clusters)
  clusters_nil : clusters [] = []
  clusters_cons : ∀ c cs, clusters (c :: cs) = cluster c ++ clusters cs

namespace Gathering

variable {α : Type} (f : Gathering α)

theorem clusters_eq_flatMap (cs : List Cluster) : f.clusters cs = cs.flatMap f.cluster := by
  induction cs with
  | nil => exact f.clusters_nil
  | cons c cs ih => rw [f.clusters_cons, ih, List.flatMap_cons]

theorem clusters_append (cs ds : List Cluster) :
    f.clusters (cs ++ ds) = f.clusters cs ++ f.clusters ds := by
  simp only [clusters_eq_flatMap, List.flatMap_append]

/-- The items of a layer. -/
def layer (l : Layer) : List α :=
  l.nodes.flatMap f.node ++ l.ordering.flatMap f.edge ++ f.clusters l.clusters

/-- The items of a tree, those in open clusters included. -/
def outline (o : Outline) : List α :=
  f.layer o.graph.layer ++ o.scopes.flatMap f.cluster

theorem cluster_eq_layer (c : Cluster) : f.cluster c = f.name c.id ++ f.layer c.layer :=
  f.cluster_eq c

theorem layer_ofNode (n : Node) : f.layer (.ofNode n) = f.node n := by
  simp [layer, Layer.ofNode, f.clusters_nil]

theorem layer_ofCluster (c : Cluster) : f.layer (.ofCluster c) = f.cluster c := by
  simp [layer, Layer.ofCluster, clusters_eq_flatMap]

theorem layer_ofOrdering (es : List Edge) : f.layer (.ofOrdering es) = es.flatMap f.edge := by
  simp [layer, Layer.ofOrdering, f.clusters_nil]

theorem layer_append (a b : Layer) : (f.layer (a ++ b)).Perm (f.layer a ++ f.layer b) := by
  classical
  rw [List.perm_iff_count]
  intro x
  simp only [layer, Layer.nodes_append, Layer.clusters_append, Layer.ordering_append,
    clusters_append, List.flatMap_append, List.count_append]
  omega

/-- A new layer adds its items, be it at top level or in an open cluster. -/
theorem outline_grow (o : Outline) (l : Layer) :
    (f.outline (o.grow l)).Perm (f.layer l ++ f.outline o) := by
  classical
  rw [List.perm_iff_count]
  intro x
  -- the scope that grows takes the layer at its end, and all others stay as they are
  obtain ⟨graph, _ | ⟨inner, outer⟩⟩ := o
  · have hgraph := (f.layer_append graph.layer l).count_eq x
    simp only [Outline.grow, outline, List.count_append] at hgraph ⊢
    change (f.layer (graph.layer ++ l)).count x + _ = _
    omega
  · have hinner := (f.layer_append inner.layer l).count_eq x
    simp only [Outline.grow, outline, List.flatMap_cons, cluster_eq_layer, List.count_append]
      at hinner ⊢
    change _ + (_ + (f.layer (inner.layer ++ l)).count x + _) = _
    omega

/-- A cluster that is closed keeps its items. -/
theorem outline_close (o : Outline) : (f.outline o.close).Perm (f.outline o) := by
  obtain ⟨graph, _ | ⟨inner, outer⟩⟩ := o
  · exact .refl _
  · refine (f.outline_grow ⟨graph, outer⟩ (.ofCluster inner)).trans ?_
    rw [layer_ofCluster, outline, outline, List.flatMap_cons]
    exact List.perm_append_comm_assoc ..

/-- A cluster that is opened has the items of its name. -/
theorem outline_open (o : Outline) (id : String) (attrs : Attrs) :
    (f.outline { o with scopes := Cluster.empty id attrs :: o.scopes }).Perm
      (f.name id ++ f.outline o) := by
  have hempty : f.cluster (.empty id attrs) = f.name id := by
    simp [f.cluster_eq, Cluster.empty, f.clusters_nil]
  rw [outline, outline, List.flatMap_cons, hempty]
  exact List.perm_append_comm_assoc ..

/-- The items that a step adds to a canvas. -/
def gained (c : Canvas) : Event → List α
  | .node d => f.node ⟨(c.declareNode d).1, d.key, Canvas.nodeAttrs d⟩
  | .opening key _ => f.name (c.clusterIds.choose ("cluster_" ++ key)).1
  | .ordering source target =>
    if source ∈ c.declared ∧ target ∈ c.declared then
      f.edge ⟨source, target, Attrs.empty.raw "style" "invis"⟩
    else []
  | _ => []

/-- The items after a step. -/
theorem outline_apply (c : Canvas) (e : Event) :
    (f.outline (e.apply c).outline).Perm (f.gained c e ++ f.outline c.outline) := by
  cases e with
  | node d =>
    have hgrow := f.outline_grow c.outline
      (.ofNode ⟨(c.declareNode d).1, d.key, Canvas.nodeAttrs d⟩)
    rwa [← c.outline_declareNode, layer_ofNode] at hgrow
  | opening key attrs =>
    rw [Event.apply, c.outline_openCluster]
    exact f.outline_open ..
  | closing =>
    rw [Event.apply, c.outline_closeCluster]
    exact f.outline_close c.outline
  | edge source target attrs =>
    simp only [Event.apply, edge_apply]
    split_ifs <;> exact .refl _
  | ordering source target =>
    simp only [Event.apply, orderingEdge_apply, gained]
    split_ifs
    · rw [c.outline_placeOrdering, ← List.flatMap_singleton f.edge, ← layer_ofOrdering]
      exact f.outline_grow ..
    · exact .refl _
  | sameRank | comment | warn => exact .refl _

/-- What holds of every item that a step adds is kept by runs. -/
theorem forall_run {P : α → Prop} (hgained : ∀ c e, ∀ x ∈ f.gained c e, P x) {c : Canvas}
    (h : ∀ x ∈ f.outline c.outline, P x) (es : List Event) :
    ∀ x ∈ f.outline (run es c).outline, P x := by
  induction es generalizing c with
  | nil => exact h
  | cons e es ih =>
    refine ih fun x hx => ?_
    rcases List.mem_append.1 ((f.outline_apply c e).mem_iff.1 hx) with hx | hx
    · exact hgained c e x hx
    · exact h x hx

/-- What holds of every item that a step adds holds of all items after a run. -/
theorem forall_run_blank {P : α → Prop} (hgained : ∀ c e, ∀ x ∈ f.gained c e, P x)
    (es : List Event) : ∀ x ∈ f.outline (run es .blank).outline, P x := by
  have hblank : f.outline Canvas.blank.outline = [] := by
    simp [outline, layer, Canvas.outline, Canvas.blank, Graph.layer, Graph.empty, f.clusters_nil]
  exact f.forall_run hgained (by simp [hblank]) es

/-- A finished diagram has the items of its canvas. -/
theorem layer_finish (c : Canvas) :
    (f.layer c.finish.graph.layer).Perm (f.outline c.outline) := by
  have hclosed : (f.outline (run c.closings c).outline).Perm (f.outline c.outline) :=
    Canvas.run_closings (P := fun c' => (f.outline c'.outline).Perm (f.outline c.outline))
      (fun c' h => (f.outline_apply c' .closing).trans h) (.refl _)
  rw [c.finish_eq]
  rwa [outline, Canvas.outline, c.scopes_run_closings, List.flatMap_nil, List.append_nil]
    at hclosed

end Gathering

-- ════════════════════════════════════════════════════════════════════════
-- Nodes
-- ════════════════════════════════════════════════════════════════════════

theorem Dot.Cluster.allNodes_eq (c : Cluster) :
    c.allNodes = c.nodes ++ Cluster.allNodesOf c.clusters := by
  cases c
  rw [Cluster.allNodes]

/-- All nodes of a tree. -/
def Gathering.nodes : Gathering Node where
  name _ := []
  node n := [n]
  edge _ := []
  cluster := Cluster.allNodes
  clusters := Cluster.allNodesOf
  cluster_eq c := by simp [c.allNodes_eq, flatMap_const_nil]
  clusters_nil := rfl
  clusters_cons _ _ := rfl

theorem Dot.Cluster.allNodesOf_append (cs ds : List Cluster) :
    Cluster.allNodesOf (cs ++ ds) = Cluster.allNodesOf cs ++ Cluster.allNodesOf ds :=
  Gathering.nodes.clusters_append cs ds

namespace Layer

/-- The nodes of a layer, those in its clusters included. -/
def allNodes (l : Layer) : List Node :=
  l.nodes ++ Cluster.allNodesOf l.clusters

theorem allNodes_eq (l : Layer) : l.allNodes = Gathering.nodes.layer l := by
  simp [allNodes, Gathering.layer, Gathering.nodes, flatMap_const_nil]

theorem allNodes_append_perm (a b : Layer) :
    (a ++ b).allNodes.Perm (a.allNodes ++ b.allNodes) := by
  simp only [allNodes_eq]
  exact Gathering.nodes.layer_append a b

theorem allNodes_ofCluster (c : Cluster) : (ofCluster c).allNodes = c.layer.allNodes := by
  rw [allNodes_eq, Gathering.layer_ofCluster, Gathering.cluster_eq_layer, allNodes_eq]
  rfl

theorem ids_ofCluster (c : Cluster) : (ofCluster c).ids = c.layer.ids :=
  congrArg (List.map Node.id) (allNodes_ofCluster c)

theorem ids_append_perm (a b : Layer) : (a ++ b).ids.Perm (a.ids ++ b.ids) := by
  have hnodes := (a.allNodes_append_perm b).map (·.id)
  rwa [List.map_append] at hnodes

theorem mem_ids_append {a b : Layer} {id : String} :
    id ∈ (a ++ b).ids ↔ id ∈ a.ids ∨ id ∈ b.ids :=
  (a.ids_append_perm b).mem_iff.trans List.mem_append

end Layer

namespace Canvas

/-- The nodes that are declared so far, those in open clusters included. -/
def allNodes (c : Canvas) : List Node :=
  c.graph.allNodes ++ c.scopes.flatMap Cluster.allNodes

theorem allNodes_eq (c : Canvas) : c.allNodes = Gathering.nodes.outline c.outline :=
  congrArg (· ++ c.scopes.flatMap Cluster.allNodes) (Layer.allNodes_eq c.graph.layer)

/-- A finished diagram has the nodes of the canvas. -/
theorem allNodes_finish (c : Canvas) : c.finish.graph.allNodes.Perm c.allNodes := by
  have hnodes := Gathering.nodes.layer_finish c
  rwa [← Layer.allNodes_eq, ← c.allNodes_eq] at hnodes

end Canvas

/-- The node of a declaration that got an identifier. -/
def Call.node (call : Call) : Node :=
  ⟨call.2, call.1.key, Canvas.nodeAttrs call.1⟩

theorem Gathering.gained_nodes (c : Canvas) (e : Event) :
    nodes.gained c e = (e.log c).calls.map Call.node := by
  cases e with
  | ordering => exact ite_self []
  | _ => rfl

/-- A step puts the node that it declares into the tree, and leaves the others there. -/
theorem Event.allNodes_apply (c : Canvas) (e : Event) :
    (e.apply c).allNodes.Perm ((e.log c).calls.map Call.node ++ c.allNodes) := by
  rw [← Gathering.gained_nodes, Canvas.allNodes_eq, Canvas.allNodes_eq]
  exact Gathering.nodes.outline_apply c e

-- ════════════════════════════════════════════════════════════════════════
-- Names of clusters
-- ════════════════════════════════════════════════════════════════════════

mutual

def Dot.Cluster.names : Cluster → List String
  | ⟨id, _, _, clusters, _⟩ => id :: Cluster.namesOf clusters

def Dot.Cluster.namesOf : List Cluster → List String
  | [] => []
  | c :: rest => c.names ++ Cluster.namesOf rest

end

theorem Dot.Cluster.names_eq (c : Cluster) : c.names = c.id :: Cluster.namesOf c.clusters := by
  cases c
  rw [Cluster.names]

/-- The names of all clusters of a tree. -/
def Gathering.names : Gathering String where
  name id := [id]
  node _ := []
  edge _ := []
  cluster := Cluster.names
  clusters := Cluster.namesOf
  cluster_eq c := by simp [c.names_eq, flatMap_const_nil]
  clusters_nil := rfl
  clusters_cons _ _ := rfl

theorem Gathering.layer_names (l : Layer) : names.layer l = Cluster.namesOf l.clusters := by
  simp [layer, names, flatMap_const_nil]

def Dot.Graph.clusterNames (g : Graph) : List String :=
  Cluster.namesOf g.clusters

namespace Canvas

def clusterNames (c : Canvas) : List String :=
  c.graph.clusterNames ++ c.scopes.flatMap Cluster.names

theorem clusterNames_eq (c : Canvas) : c.clusterNames = Gathering.names.outline c.outline :=
  congrArg (· ++ c.scopes.flatMap Cluster.names) (Gathering.layer_names c.graph.layer).symm

theorem clusterNames_finish (c : Canvas) : c.finish.graph.clusterNames.Perm c.clusterNames := by
  have hnames := Gathering.names.layer_finish c
  rwa [Gathering.layer_names, ← c.clusterNames_eq] at hnames

end Canvas

/-- The name of the cluster that a step opens. -/
def Event.opened (c : Canvas) : Event → List String
  | opening key _ => [(c.clusterIds.choose ("cluster_" ++ key)).1]
  | _ => []

theorem Gathering.gained_names (c : Canvas) (e : Event) : names.gained c e = e.opened c := by
  cases e with
  | ordering => exact ite_self []
  | _ => rfl

theorem Event.clusterNames_apply (c : Canvas) (e : Event) :
    (e.apply c).clusterNames.Perm (e.opened c ++ c.clusterNames) := by
  rw [← Gathering.gained_names, Canvas.clusterNames_eq, Canvas.clusterNames_eq]
  exact Gathering.names.outline_apply c e

-- ════════════════════════════════════════════════════════════════════════
-- Ordering edges
-- ════════════════════════════════════════════════════════════════════════

mutual

/-- The ordering edges of a cluster: its own, then those of its inner clusters. -/
def Dot.Cluster.allOrdering : Cluster → List Edge
  | ⟨_, _, _, clusters, ordering⟩ => ordering ++ Cluster.allOrderingOf clusters

def Dot.Cluster.allOrderingOf : List Cluster → List Edge
  | [] => []
  | c :: rest => c.allOrdering ++ Cluster.allOrderingOf rest

end

theorem Dot.Cluster.allOrdering_eq (c : Cluster) :
    c.allOrdering = c.ordering ++ Cluster.allOrderingOf c.clusters := by
  cases c
  rw [Cluster.allOrdering]

/-- All ordering edges of a tree. -/
def Gathering.edges : Gathering Edge where
  name _ := []
  node _ := []
  edge e := [e]
  cluster := Cluster.allOrdering
  clusters := Cluster.allOrderingOf
  cluster_eq c := by simp [c.allOrdering_eq, flatMap_const_nil]
  clusters_nil := rfl
  clusters_cons _ _ := rfl

/-- The ordering edges of a layer, those within its clusters included. -/
def Layer.allOrdering (l : Layer) : List Edge :=
  l.ordering ++ Cluster.allOrderingOf l.clusters

namespace Layer

theorem allOrdering_eq (l : Layer) : l.allOrdering = Gathering.edges.layer l := by
  simp [allOrdering, Gathering.layer, Gathering.edges, flatMap_const_nil]

theorem allOrdering_ofCluster (c : Cluster) : (ofCluster c).allOrdering = c.layer.allOrdering := by
  rw [allOrdering_eq, Gathering.layer_ofCluster, Gathering.cluster_eq_layer, allOrdering_eq]
  rfl

theorem allOrdering_append_perm (a b : Layer) :
    (a ++ b).allOrdering.Perm (a.allOrdering ++ b.allOrdering) := by
  simp only [allOrdering_eq]
  exact Gathering.edges.layer_append a b

end Layer

def Dot.Graph.allOrdering (g : Graph) : List Edge :=
  g.ordering ++ Cluster.allOrderingOf g.clusters

namespace Canvas

/-- The ordering edges so far, those in open clusters included. -/
def allOrdering (c : Canvas) : List Edge :=
  c.graph.allOrdering ++ c.scopes.flatMap Cluster.allOrdering

theorem allOrdering_eq (c : Canvas) : c.allOrdering = Gathering.edges.outline c.outline :=
  congrArg (· ++ c.scopes.flatMap Cluster.allOrdering) (Layer.allOrdering_eq c.graph.layer)

/-- A finished diagram has the ordering edges of the canvas. -/
theorem allOrdering_finish (c : Canvas) : c.finish.graph.allOrdering.Perm c.allOrdering := by
  have hordering := Gathering.edges.layer_finish c
  rwa [← Layer.allOrdering_eq, ← c.allOrdering_eq] at hordering

end Canvas

theorem Event.allOrdering_apply (c : Canvas) (e : Event) :
    (e.apply c).allOrdering.Perm (Gathering.edges.gained c e ++ c.allOrdering) := by
  rw [Canvas.allOrdering_eq, Canvas.allOrdering_eq]
  exact Gathering.edges.outline_apply c e

end InfraDiagram

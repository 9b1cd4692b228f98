import InfraDiagram.Proofs.Completeness
import InfraDiagram.Proofs.Sketches

/-!
# Clusters nest like the calls that draw them

The open clusters form a stack that every call changes, yet what is drawn is a tree: the body of a
cluster call ends up in its cluster and nowhere else. The tree is told by recursion on the calls,
and the only thing that has to be carried from one call to the next is which identifiers are taken.

## Main definitions

- `Piece` — calls, where the body of a cluster is again a list of calls
- `Piece.draw`, `Piece.drawAll` — the programs that make them
- `Supply`, `Piece.spend` — the identifiers that are taken before and after a call
- `Content`, `Piece.content` — what calls contribute to a graph, by recursion on them
- `Drawn`, `Realizes` — what was drawn between two canvases, and what a program always draws
- `Canvas.Gains`, `Finished` — what a cluster call and a whole drawing come to

## Main statements

- `Realizes.inCluster`, `Realizes.append` — the rules for clusters and for calls in a row
- `Piece.realizes`, `Piece.realizesAll` — every piece draws its content
- `nests_and_finishes` — the stack of open clusters, and the finished graph
-/

namespace InfraDiagram

open Dot

-- ════════════════════════════════════════════════════════════════════════
-- Calls
-- ════════════════════════════════════════════════════════════════════════

/-- A call of a drawing program; the calls in the body of a cluster are made while it is open. -/
inductive Piece where
  | node (d : Declaration)
  | cluster (key : String) (attrs : Attrs) (body : List Piece)
  | edge (source target : String) (attrs : Attrs)
  | ordering (source target : String)
  | sameRank (ids : List String)
  | comment (text : String)
  | warn (d : Diagnostic)

namespace Piece

mutual

/-- Makes a call; gives the identifiers of the nodes that it declares. -/
def draw : Piece → Draw (List String)
  | node d => do return [← declare d]
  | cluster key attrs body => inCluster key attrs (drawAll body)
  | edge source target attrs => do
    InfraDiagram.edge source target attrs
    return []
  | ordering source target => do
    orderingEdge source target
    return []
  | sameRank ids => do
    InfraDiagram.sameRank ids
    return []
  | comment text => do
    InfraDiagram.comment text
    return []
  | warn d => do
    InfraDiagram.warn d
    return []

def drawAll : List Piece → Draw (List String)
  | [] => return []
  | p :: ps => do
    let ids ← p.draw
    let rest ← drawAll ps
    return ids ++ rest

end

mutual

/-- The nodes that a call declares, at any depth. -/
def declarations : Piece → List Declaration
  | node d => [d]
  | cluster _ _ body => declarationsOf body
  | _ => []

def declarationsOf : List Piece → List Declaration
  | [] => []
  | p :: ps => p.declarations ++ declarationsOf ps

end

end Piece

-- ════════════════════════════════════════════════════════════════════════
-- What calls contribute to a graph
-- ════════════════════════════════════════════════════════════════════════

/-- What a call depends on: the identifiers that are taken, and the nodes that edges may join. -/
structure Supply where
  nodeIds : IdPool
  clusterIds : IdPool
  declared : List String

namespace Supply

def empty : Supply := ⟨.empty, .empty, []⟩

def nodeId (s : Supply) (d : Declaration) : String :=
  (s.nodeIds.choose d.key).1

def clusterId (s : Supply) (key : String) : String :=
  (s.clusterIds.choose ("cluster_" ++ key)).1

def declare (s : Supply) (d : Declaration) : Supply :=
  { s with nodeIds := (s.nodeIds.allocate d.key).2, declared := s.nodeId d :: s.declared }

def enclose (s : Supply) (key : String) : Supply :=
  { s with clusterIds := (s.clusterIds.allocate ("cluster_" ++ key)).2 }

end Supply

/-- The cluster that has this layer and nothing else. -/
def Layer.closed (l : Layer) (id : String) (attrs : Attrs) : Cluster :=
  ⟨id, attrs, l.nodes, l.clusters, l.ordering⟩

/-- What calls contribute to a graph. The layer goes where the calls are made; edges, ranked
    identifiers and comments belong to the graph as a whole. -/
structure Content where
  layer : Layer
  edges : List Edge
  ranked : List String
  comments : List String
  /-- The declarations at any depth with their identifiers, in the order of the calls. -/
  calls : List Call

namespace Content

def empty : Content := ⟨.empty, [], [], [], []⟩

def append (a b : Content) : Content :=
  ⟨a.layer ++ b.layer, a.edges ++ b.edges, a.ranked ++ b.ranked, a.comments ++ b.comments,
    a.calls ++ b.calls⟩

instance : Append Content := ⟨append⟩

/-- The identifiers of the declared nodes. -/
def ids (k : Content) : List String :=
  k.calls.map Prod.snd

def ofNode (call : Call) : Content :=
  { empty with layer := .ofNode call.node, calls := [call] }

/-- The content of a cluster with the given content in it. -/
def enclosed (k : Content) (id : String) (attrs : Attrs) : Content :=
  { k with layer := .ofCluster (k.layer.closed id attrs) }

/-- The graph that has this content and nothing else; an identifier is ranked once. -/
def graph (k : Content) : Graph :=
  ⟨k.comments, k.layer.nodes, k.layer.ordering, k.layer.clusters, k.ranked.eraseDups, k.edges⟩

@[simp]
theorem layer_append (a b : Content) : (a ++ b).layer = a.layer ++ b.layer := rfl

@[simp]
theorem edges_append (a b : Content) : (a ++ b).edges = a.edges ++ b.edges := rfl

@[simp]
theorem ranked_append (a b : Content) : (a ++ b).ranked = a.ranked ++ b.ranked := rfl

@[simp]
theorem comments_append (a b : Content) : (a ++ b).comments = a.comments ++ b.comments := rfl

@[simp]
theorem calls_append (a b : Content) : (a ++ b).calls = a.calls ++ b.calls := rfl

theorem ids_append (a b : Content) : (a ++ b).ids = a.ids ++ b.ids :=
  List.map_append

end Content

namespace Piece

mutual

/-- What is taken after a call. Leaving a cluster gives nothing back. -/
def spend (s : Supply) : Piece → Supply
  | node d => s.declare d
  | cluster key _ body => spendAll (s.enclose key) body
  | _ => s

def spendAll (s : Supply) : List Piece → Supply
  | [] => s
  | p :: ps => spendAll (p.spend s) ps

end

mutual

/-- What a call contributes. An edge counts if both of its ends are declared by then. -/
def content (s : Supply) : Piece → Content
  | node d => .ofNode (d, s.nodeId d)
  | cluster key attrs body => (contentOf (s.enclose key) body).enclosed (s.clusterId key) attrs
  | edge source target attrs =>
    { Content.empty with
      edges := if source ∈ s.declared ∧ target ∈ s.declared then [⟨source, target, attrs⟩] else [] }
  | ordering source target =>
    { Content.empty with
      layer := .ofOrdering <|
        if source ∈ s.declared ∧ target ∈ s.declared then
          [⟨source, target, Attrs.empty.raw "style" "invis"⟩]
        else [] }
  | sameRank ids => { Content.empty with ranked := ids.filter (· ∈ s.declared) }
  | comment text => { Content.empty with comments := [Text.withoutControls text] }
  | warn _ => .empty

def contentOf (s : Supply) : List Piece → Content
  | [] => .empty
  | p :: ps => p.content s ++ contentOf (p.spend s) ps

end

end Piece

-- ════════════════════════════════════════════════════════════════════════
-- Canvases
-- ════════════════════════════════════════════════════════════════════════

/-- An identifier joins a group unless it is in it. -/
def joinRank (group : List String) (id : String) : List String :=
  if id ∈ group then group else group ++ [id]

theorem foldl_joinRank (group ids : List String) :
    ids.foldl joinRank group = group ++ (ids.filter (· ∉ group)).eraseDups := by
  induction ids generalizing group with
  | nil => exact (List.append_nil group).symm
  | cons id ids ih =>
    rw [List.foldl_cons, ih, joinRank]
    by_cases hid : id ∈ group
    · rw [if_pos hid, List.filter_cons_of_neg (by simpa using hid)]
    · rw [if_neg hid, List.filter_cons_of_pos (by simpa using hid), List.eraseDups_cons,
        List.append_assoc, List.filter_filter]
      have hrest : ids.filter (· ∉ group ++ [id]) =
          ids.filter fun other => !other == id && decide (other ∉ group) := by
        refine List.filter_congr fun other _ => ?_
        by_cases heq : other = id <;> simp [heq]
      rw [hrest]
      rfl

namespace Canvas

def supply (c : Canvas) : Supply :=
  ⟨c.nodeIds, c.clusterIds, c.declared⟩

/-- What a canvas has taken is in its books. -/
theorem supply_of_books {c : Canvas} {b : Books} (h : c.books = b) :
    c.supply = ⟨b.nodeIds, b.clusterIds, b.declared⟩ :=
  congrArg (fun b : Books => Supply.mk b.nodeIds b.clusterIds b.declared) h

theorem supply_edge (c : Canvas) (source target : String) (attrs : Attrs) :
    (Event.apply c (.edge source target attrs)).supply = c.supply := by
  rw [Event.apply, edge_apply]
  split_ifs <;> rfl

theorem sameRank_eq_foldl (c : Canvas) (ids : List String) :
    (c.addSameRank ids).graph.sameRank =
      (ids.filter (· ∈ c.declared)).foldl joinRank c.graph.sameRank := by
  rw [List.foldl_filter]
  show ids.foldl _ _ = ids.foldl _ _
  congr 1
  funext group id
  by_cases hdeclared : id ∈ c.declared <;> by_cases hgroup : id ∈ group <;>
    simp [joinRank, hdeclared, hgroup]

/-- Whether an ordering edge is drawn or not, the books only have a report more. -/
theorem books_ordering (c : Canvas) (source target : String) :
    ∃ ds, (Event.apply c (.ordering source target)).books = { c.books with diagnostics := ds } := by
  rw [Event.books_apply, Event.write]
  split_ifs
  · exact ⟨c.diagnostics, rfl⟩
  · exact ⟨_, rfl⟩

theorem supply_ordering (c : Canvas) (source target : String) :
    (Event.apply c (.ordering source target)).supply = c.supply := by
  obtain ⟨ds, hbooks⟩ := c.books_ordering source target
  exact supply_of_books hbooks

end Canvas

/-- The content that was drawn between two canvases. -/
structure Drawn (c c' : Canvas) (k : Content) : Prop where
  tree : c'.tree = c.tree.grow k.layer
  edges : c'.graph.edges = c.graph.edges ++ k.edges
  ranked : c'.graph.sameRank = k.ranked.foldl joinRank c.graph.sameRank
  comments : c'.graph.comments = c.graph.comments ++ k.comments
  steps : ∃ es, c' = run es c ∧ (logOf es c).calls = k.calls

namespace Drawn

variable {c c' c'' : Canvas} {k k' : Content}

/-- A step that declares nothing draws what it does to the canvas. -/
theorem of_step (e : Event) (hcalls : (e.log c).calls = []) {layer : Layer} {edges : List Edge}
    {ranked comments : List String} (htree : (e.apply c).tree = c.tree.grow layer)
    (hedges : (e.apply c).graph.edges = c.graph.edges ++ edges)
    (hranked : (e.apply c).graph.sameRank = ranked.foldl joinRank c.graph.sameRank)
    (hcomments : (e.apply c).graph.comments = c.graph.comments ++ comments) :
    Drawn c (e.apply c) ⟨layer, edges, ranked, comments, []⟩ :=
  ⟨htree, hedges, hranked, hcomments, [e], rfl, by rw [logOf, Log.calls_append, hcalls]; rfl⟩

theorem refl (c : Canvas) : Drawn c c .empty where
  tree := (Outline.grow_empty _).symm
  edges := (List.append_nil _).symm
  ranked := rfl
  comments := (List.append_nil _).symm
  steps := ⟨[], rfl, rfl⟩

theorem trans (h : Drawn c c' k) (h' : Drawn c' c'' k') : Drawn c c'' (k ++ k') where
  tree := by rw [h'.tree, h.tree, Outline.grow_grow, Content.layer_append]
  edges := by rw [h'.edges, h.edges, List.append_assoc, Content.edges_append]
  ranked := by rw [h'.ranked, h.ranked, Content.ranked_append, List.foldl_append]
  comments := by rw [h'.comments, h.comments, List.append_assoc, Content.comments_append]
  steps := by
    obtain ⟨es, rfl, hcalls⟩ := h.steps
    obtain ⟨es', rfl, hcalls'⟩ := h'.steps
    refine ⟨es ++ es', (run_append es es' c).symm, ?_⟩
    rw [logOf_append, Log.calls_append, hcalls, hcalls', Content.calls_append]

theorem declare (c : Canvas) (d : Declaration) :
    Drawn c (c.declareNode d).2 (.ofNode (d, c.supply.nodeId d)) where
  tree := Canvas.tree_eq_grow (c.outline_declareNode d)
  edges := (congrArg Books.edges (c.books_declareNode d)).trans (List.append_nil _).symm
  ranked := congrArg Books.sameRank (c.books_declareNode d)
  comments := (congrArg Books.comments (c.books_declareNode d)).trans (List.append_nil _).symm
  steps := ⟨[.node d], rfl, rfl⟩

theorem edge (c : Canvas) (source target : String) (attrs : Attrs) :
    Drawn c (Event.apply c (.edge source target attrs))
      ((Piece.edge source target attrs).content c.supply) := by
  show Drawn c _ ⟨.empty, if source ∈ c.declared ∧ target ∈ c.declared then _ else [], [], [], []⟩
  refine .of_step _ rfl ?_ ?_ ?_ ?_
  all_goals
    rw [Event.apply, edge_apply]
    split_ifs
  · exact (Outline.grow_empty _).symm
  · exact (Outline.grow_empty _).symm
  · rfl
  · exact (List.append_nil _).symm
  · rfl
  · rfl
  · exact (List.append_nil _).symm
  · exact (List.append_nil _).symm

theorem ordering (c : Canvas) (source target : String) :
    Drawn c (Event.apply c (.ordering source target))
      ((Piece.ordering source target).content c.supply) := by
  obtain ⟨ds, hbooks⟩ := c.books_ordering source target
  show Drawn c _ ⟨.ofOrdering (if source ∈ c.declared ∧ target ∈ c.declared then _ else []),
    [], [], [], []⟩
  refine .of_step _ rfl ?_ ?_ (congrArg Books.sameRank hbooks) ?_
  · rw [Event.apply, orderingEdge_apply]
    split_ifs
    · exact Canvas.tree_eq_grow (c.outline_placeOrdering _)
    · exact (Outline.grow_empty _).symm
  · exact (congrArg Books.edges hbooks).trans (List.append_nil _).symm
  · exact (congrArg Books.comments hbooks).trans (List.append_nil _).symm

theorem sameRank (c : Canvas) (ids : List String) :
    Drawn c (Event.apply c (.sameRank ids)) ((Piece.sameRank ids).content c.supply) :=
  .of_step _ rfl (Outline.grow_empty _).symm (List.append_nil _).symm (c.sameRank_eq_foldl ids)
    (List.append_nil _).symm

theorem comment (c : Canvas) (text : String) :
    Drawn c (Event.apply c (.comment text)) ((Piece.comment text).content c.supply) :=
  .of_step _ rfl (Outline.grow_empty _).symm (List.append_nil _).symm rfl rfl

theorem warn (c : Canvas) (d : Diagnostic) :
    Drawn c (Event.apply c (.warn d)) ((Piece.warn d).content c.supply) :=
  .of_step _ rfl (Outline.grow_empty _).symm (List.append_nil _).symm rfl (List.append_nil _).symm

/-- What is drawn while a cluster is open is enclosed by it once it is closed. -/
theorem enclosed {key : String} {attrs : Attrs} (h : Drawn (c.openCluster key attrs) c' k) :
    Drawn c c'.closeCluster (k.enclosed (c.supply.clusterId key) attrs) where
  tree := by
    rw [Canvas.tree, Canvas.outline_closeCluster, Outline.bare_close]
    exact (congrArg Outline.close h.tree).trans (Outline.close_grow_open c.tree _ attrs k.layer)
  edges := (congrArg Books.edges c'.books_closeCluster).trans h.edges
  ranked := (congrArg Books.sameRank c'.books_closeCluster).trans h.ranked
  comments := (congrArg Books.comments c'.books_closeCluster).trans h.comments
  steps := by
    obtain ⟨es, rfl, hcalls⟩ := h.steps
    refine ⟨.opening key attrs :: (es ++ [.closing]), ?_, ?_⟩
    · rw [run_cons, run_append]
      rfl
    · rw [logOf, logOf_append, Log.calls_append, Log.calls_append]
      exact (List.append_nil _).trans hcalls

end Drawn

-- ════════════════════════════════════════════════════════════════════════
-- Programs
-- ════════════════════════════════════════════════════════════════════════

/-- From every canvas, the program draws the content that belongs to what is taken there, takes what
    `spend` says, and gives the identifiers it was given. -/
def Realizes (m : Draw (List String)) (content : Supply → Content) (spend : Supply → Supply) :
    Prop :=
  ∀ c : Canvas, Drawn c (m c).2 (content c.supply) ∧ (m c).2.supply = spend c.supply ∧
    (m c).1 = (content c.supply).ids

namespace Realizes

variable {m m' : Draw (List String)} {content content' : Supply → Content}
  {spend spend' : Supply → Supply}

theorem pure : Realizes (Pure.pure []) (fun _ => .empty) (fun s => s) :=
  fun c => ⟨.refl c, rfl, rfl⟩

/-- What follows a program starts from what the program has taken. -/
theorem append (hm : Realizes m content spend) (hm' : Realizes m' content' spend') :
    Realizes (do return (← m) ++ (← m')) (fun s => content s ++ content' (spend s))
      (fun s => spend' (spend s)) := by
  intro c
  obtain ⟨hdrawn, hsupply, hids⟩ := hm c
  obtain ⟨hdrawn', hsupply', hids'⟩ := hm' (m c).2
  rw [hsupply] at hdrawn' hsupply' hids'
  refine ⟨hdrawn.trans hdrawn', hsupply', ?_⟩
  show (m c).1 ++ (m' (m c).2).1 = _
  rw [hids, hids', Content.ids_append]

theorem inCluster (hm : Realizes m content spend) (key : String) (attrs : Attrs) :
    Realizes (InfraDiagram.inCluster key attrs m)
      (fun s => (content (s.enclose key)).enclosed (s.clusterId key) attrs)
      (fun s => spend (s.enclose key)) := by
  intro c
  obtain ⟨hdrawn, hsupply, hids⟩ := hm (c.openCluster key attrs)
  have hclose := Canvas.supply_of_books (m (c.openCluster key attrs)).2.books_closeCluster
  exact ⟨hdrawn.enclosed, hclose.trans hsupply, hids⟩

theorem declare (d : Declaration) :
    Realizes (do return [← InfraDiagram.declare d]) (fun s => .ofNode (d, s.nodeId d))
      (fun s => s.declare d) :=
  fun c => ⟨.declare c d, Canvas.supply_of_books (c.books_declareNode d), rfl⟩

/-- A call that declares nothing draws what its step draws. -/
theorem silent {m : Draw PUnit} (e : Event) (happly : ∀ c, (m c).2 = e.apply c)
    (hdrawn : ∀ c, Drawn c (e.apply c) (content c.supply))
    (hsupply : ∀ c, (e.apply c).supply = c.supply) (hids : ∀ s, (content s).calls = []) :
    Realizes (do m; return []) content (fun s => s) := by
  intro c
  refine ⟨?_, ?_, ?_⟩
  · exact happly c ▸ hdrawn c
  · exact (congrArg Canvas.supply (happly c)).trans (hsupply c)
  · rw [Content.ids, hids]
    rfl

end Realizes

mutual

/-- Every call draws its content. -/
theorem Piece.realizes (p : Piece) :
    Realizes p.draw (fun s => p.content s) (fun s => p.spend s) := by
  cases p with
  | node d => exact .declare d
  | cluster key attrs body => exact (Piece.realizesAll body).inCluster key attrs
  | edge source target attrs =>
    exact .silent (.edge source target attrs) (fun _ => rfl)
      (fun c => .edge c source target attrs) (fun c => c.supply_edge source target attrs)
      fun _ => rfl
  | ordering source target =>
    exact .silent (.ordering source target) (fun _ => rfl) (fun c => .ordering c source target)
      (fun c => c.supply_ordering source target) fun _ => rfl
  | sameRank ids =>
    exact .silent (.sameRank ids) (fun _ => rfl) (fun c => .sameRank c ids) (fun _ => rfl)
      fun _ => rfl
  | comment text =>
    exact .silent (.comment text) (fun _ => rfl) (fun c => .comment c text) (fun _ => rfl)
      fun _ => rfl
  | warn d =>
    exact .silent (.warn d) (fun _ => rfl) (fun c => .warn c d) (fun _ => rfl) fun _ => rfl

/-- Calls in a row draw their content. -/
theorem Piece.realizesAll (ps : List Piece) :
    Realizes (Piece.drawAll ps) (fun s => Piece.contentOf s ps) (fun s => Piece.spendAll s ps) := by
  cases ps with
  | nil => exact .pure
  | cons p ps => exact p.realizes.append (Piece.realizesAll ps)

end

-- ════════════════════════════════════════════════════════════════════════
-- Nodes of a content
-- ════════════════════════════════════════════════════════════════════════

theorem Layer.allNodes_closed (l : Layer) (id : String) (attrs : Attrs) :
    (ofCluster (l.closed id attrs)).allNodes = l.allNodes :=
  allNodes_ofCluster _

namespace Piece

mutual

/-- The nodes of a content are those of its declarations. -/
theorem allNodes_content (s : Supply) (p : Piece) :
    (p.content s).layer.allNodes.Perm ((p.content s).calls.map Call.node) := by
  cases p with
  | node d => exact .refl _
  | cluster key attrs body =>
    have hbody := allNodes_contentOf (s.enclose key) body
    rwa [← Layer.allNodes_closed _ (s.clusterId key) attrs] at hbody
  | _ => exact .refl _

theorem allNodes_contentOf (s : Supply) (ps : List Piece) :
    (contentOf s ps).layer.allNodes.Perm ((contentOf s ps).calls.map Call.node) := by
  cases ps with
  | nil => exact .refl _
  | cons p ps =>
    rw [contentOf, Content.calls_append, List.map_append]
    exact (Layer.allNodes_append_perm _ _).trans
      ((allNodes_content s p).append (allNodes_contentOf (p.spend s) ps))

end

mutual

theorem declarations_content (s : Supply) (p : Piece) :
    (p.content s).calls.map Prod.fst = p.declarations := by
  cases p with
  | cluster key attrs body => exact declarations_contentOf (s.enclose key) body
  | _ => rfl

theorem declarations_contentOf (s : Supply) (ps : List Piece) :
    (contentOf s ps).calls.map Prod.fst = declarationsOf ps := by
  cases ps with
  | nil => rfl
  | cons p ps =>
    rw [contentOf, Content.calls_append, List.map_append, declarations_content s p,
      declarations_contentOf (p.spend s) ps, declarationsOf]

end

end Piece

-- ════════════════════════════════════════════════════════════════════════
-- Stacks and finished graphs
-- ════════════════════════════════════════════════════════════════════════

/-- A closed cluster was appended to the innermost open one, or at top level if none is open. The
    open clusters and the top level are otherwise as they were. -/
structure Canvas.Gains (c c' : Canvas) (closed : Cluster) : Prop where
  depth : c'.scopes.length = c.scopes.length
  inside : ∀ inner outer, c.scopes = inner :: outer →
    c'.scopes = { inner with clusters := inner.clusters ++ [closed] } :: outer ∧
      c'.layer = c.layer
  outside : c.scopes = [] → c'.scopes = [] ∧ c'.layer = c.layer ++ .ofCluster closed

def Outline.topLayer (o : Outline) : Layer :=
  ⟨o.graph.nodes, o.graph.clusters, o.graph.ordering⟩

theorem Canvas.gains_of_tree {c c' : Canvas} {closed : Cluster}
    (h : c'.tree = c.tree.grow (.ofCluster closed)) : c.Gains c' closed := by
  have hscopes : c'.scopes = (c.tree.grow (.ofCluster closed)).scopes :=
    congrArg Outline.scopes h
  have hlayer : c'.layer = (c.tree.grow (.ofCluster closed)).topLayer :=
    congrArg Outline.topLayer h
  obtain ⟨graph, scopes, nodeIds, clusterIds, nodeMap, devices, declared, diagnostics⟩ := c
  rcases scopes with _ | ⟨inner, outer⟩
  · exact ⟨congrArg List.length hscopes, fun _ _ hopen => (nomatch hopen),
      fun _ => ⟨hscopes, hlayer⟩⟩
  · have hinner : c'.scopes = { inner with clusters := inner.clusters ++ [closed] } :: outer := by
      rw [hscopes]
      show { inner with
        nodes := inner.nodes ++ []
        clusters := inner.clusters ++ [closed]
        ordering := inner.ordering ++ [] } :: outer = _
      rw [List.append_nil, List.append_nil]
    refine ⟨by rw [hinner]; rfl, fun _ _ hopen => ?_, fun hnone => (nomatch hnone)⟩
    obtain ⟨rfl, rfl⟩ := List.cons.inj hopen
    exact ⟨hinner, hlayer⟩

/-- What becomes of calls that start from the blank canvas. -/
structure Finished (ps : List Piece) (ids : List String) (c : Canvas) (k : Content) : Prop where
  /-- All clusters are closed. -/
  scopes : c.scopes = []
  graph : c.finish.graph = k.graph
  returned : ids = k.ids
  /-- The nodes of all calls in their order, each with the identifier it was given. -/
  declarations : k.calls.map Prod.fst = Piece.declarationsOf ps
  nodes : c.finish.graph.allNodes.Perm (k.calls.map Call.node)
  declaredIds : c.finish.graph.declaredIds.Perm ids
  once : c.finish.graph.declaredIds.Nodup

/-- A graph is told by what was drawn on the blank canvas. -/
theorem Drawn.graph_eq {c : Canvas} {k : Content} (h : Drawn .blank c k) :
    c.scopes = [] ∧ c.graph = k.graph := by
  refine ⟨congrArg Outline.scopes h.tree, ?_⟩
  have hlayer : c.layer = k.layer := congrArg Outline.topLayer h.tree
  have hranked : c.graph.sameRank = k.ranked.eraseDups := by
    rw [h.ranked, foldl_joinRank]
    show (k.ranked.filter (· ∉ [])).eraseDups = _
    rw [List.filter_eq_self.2 fun id _ => by simp]
  have hedges : c.graph.edges = k.edges := h.edges
  have hcomments : c.graph.comments = k.comments := h.comments
  show Dot.Graph.mk c.graph.comments c.layer.nodes c.layer.ordering c.layer.clusters
    c.graph.sameRank c.graph.edges = k.graph
  rw [hcomments, hlayer, hranked, hedges]
  rfl

/-- Calls that start from the blank canvas give the graph of their content. -/
theorem Piece.finished (ps : List Piece) :
    Finished ps (Piece.drawAll ps .blank).1 (Piece.drawAll ps .blank).2
      (Piece.contentOf .empty ps) := by
  obtain ⟨hdrawn, -, hids⟩ := Piece.realizesAll ps .blank
  obtain ⟨hscopes, hgraph⟩ := hdrawn.graph_eq
  have hfinish : (Piece.drawAll ps .blank).2.finish.graph =
      (Piece.contentOf .empty ps).graph := by
    rw [Canvas.finish_of_scopes hscopes, hgraph]
    rfl
  have hnodes := Piece.allNodes_contentOf .empty ps
  have hlisted : (Piece.contentOf .empty ps).graph.declaredIds.Perm
      (Piece.contentOf .empty ps).ids := by
    have hperm := hnodes.map (·.id)
    rwa [List.map_map] at hperm
  obtain ⟨es, -, hcalls⟩ := hdrawn.steps
  exact {
    scopes := hscopes
    graph := hfinish
    returned := hids
    declarations := Piece.declarations_contentOf .empty ps
    nodes := hfinish ▸ hnodes
    declaredIds := by rw [hfinish, hids]; exact hlisted
    once := by
      have honce := (Canvas.accounts_run es).nodup_ids
      rw [hcalls] at honce
      rw [hfinish]
      exact hlisted.nodup_iff.2 honce }

/-- **Clusters nest like the calls that draw them.** A cluster call appends one cluster to the
    innermost open one, with the content of its body, and leaves the stack as it was. The calls of
    a whole drawing give the graph that recursion on them tells. -/
theorem nests_and_finishes :
    (∀ (c : Canvas) (key : String) (attrs : Attrs) (body : List Piece),
      c.Gains ((Piece.cluster key attrs body).draw c).2
        ((Piece.contentOf (c.supply.enclose key) body).layer.closed (c.supply.clusterId key)
          attrs)) ∧
    (∀ (c : Canvas) (ps : List Piece),
      Drawn c (Piece.drawAll ps c).2 (Piece.contentOf c.supply ps)) ∧
    ∀ ps : List Piece, Finished ps (Piece.drawAll ps .blank).1 (Piece.drawAll ps .blank).2
      (Piece.contentOf .empty ps) := by
  refine ⟨fun c key attrs body => ?_, fun c ps => (Piece.realizesAll ps c).1, Piece.finished⟩
  exact Canvas.gains_of_tree ((Piece.cluster key attrs body).realizes c).1.tree

end InfraDiagram

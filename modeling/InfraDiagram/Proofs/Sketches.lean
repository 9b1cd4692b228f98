import InfraDiagram.Proofs.RackLayout

/-!
# Sketches of drawing programs

What a drawing program declares, and in which clusters, does not depend on the identifiers it is
given on the way. So it has a sketch that is known before it runs: a tree of frames with the
declarations in each of them. Without ports, every program has the same sketch with the ports
erased.

## Main definitions

- `Frame`, `Sketch` — what is to be declared, frame by frame
- `Sketch.withoutPorts` — a sketch with its ports and the frames around them erased
- `Cluster.Depicts`, `Layer.Depicts` — clusters and layers that a sketch describes
- `Sketches` — from every canvas, a program appends a layer that its sketch describes

## Main statements

- `Sketches.bind`, `Sketches.flatMap`, `Sketches.inCluster` — the rules for composed programs
- `Sketches.at_top` — what is drawn where no cluster is open
- `sketches_rackDiagram`, `sketches_servers`, `sketches_stack`, `sketches_zoned`,
  `sketches_intent` — the sketch of each kind of diagram
- `Sketch.withoutPorts_racks`, `Sketch.withoutPorts_servers`, `Device.withoutPorts_sketchStack` —
  what is left of the sketches with ports
-/

namespace InfraDiagram

open Dot

-- ════════════════════════════════════════════════════════════════════════
-- Sketches
-- ════════════════════════════════════════════════════════════════════════

/-- A cluster that is to be drawn: its key, what it declares itself, and the clusters in it. -/
structure Frame where
  key : String
  attrs : Attrs
  declarations : List Declaration
  frames : List Frame

/-- What is to be declared in a cluster or at top level. -/
structure Sketch where
  declarations : List Declaration
  frames : List Frame

def Declaration.isPort (d : Declaration) : Bool :=
  d.entity == .port

/-- Whether a frame is there for ports only. -/
def Frame.holdsPorts (f : Frame) : Bool :=
  !f.declarations.isEmpty && f.declarations.all (·.isPort) && f.frames.isEmpty

mutual

/-- A frame without the ports in it, and without the frames that are there for ports only. -/
def Frame.withoutPorts : Frame → Frame
  | ⟨key, attrs, declarations, frames⟩ =>
    ⟨key, attrs, declarations.filter (!·.isPort), Frame.withoutPortsOf frames⟩

def Frame.withoutPortsOf : List Frame → List Frame
  | [] => []
  | f :: rest =>
    if f.holdsPorts then Frame.withoutPortsOf rest
    else f.withoutPorts :: Frame.withoutPortsOf rest

end

theorem Frame.withoutPortsOf_append (fs gs : List Frame) :
    Frame.withoutPortsOf (fs ++ gs) = Frame.withoutPortsOf fs ++ Frame.withoutPortsOf gs := by
  induction fs with
  | nil => rfl
  | cons f fs ih =>
    rw [List.cons_append, withoutPortsOf, withoutPortsOf, ih]
    split_ifs <;> rfl

namespace Sketch

def empty : Sketch := ⟨[], []⟩

def single (d : Declaration) : Sketch := ⟨[d], []⟩

def framed (key : String) (attrs : Attrs) (s : Sketch) : Sketch :=
  ⟨[], [⟨key, attrs, s.declarations, s.frames⟩]⟩

def append (s t : Sketch) : Sketch :=
  ⟨s.declarations ++ t.declarations, s.frames ++ t.frames⟩

instance : Append Sketch := ⟨append⟩

/-- The sketches of several items, one behind the other. -/
def flatMap {α : Type} (xs : List α) (f : α → Sketch) : Sketch :=
  ⟨xs.flatMap fun x => (f x).declarations, xs.flatMap fun x => (f x).frames⟩

/-- A sketch without the ports in it, and without the frames that are there for ports only. -/
def withoutPorts (s : Sketch) : Sketch :=
  ⟨s.declarations.filter (!·.isPort), Frame.withoutPortsOf s.frames⟩

@[simp]
theorem declarations_append (s t : Sketch) :
    (s ++ t).declarations = s.declarations ++ t.declarations := rfl

@[simp]
theorem frames_append (s t : Sketch) : (s ++ t).frames = s.frames ++ t.frames := rfl

@[simp]
theorem append_empty (s : Sketch) : s ++ empty = s := by
  obtain ⟨declarations, frames⟩ := s
  change Sketch.mk (declarations ++ []) (frames ++ []) = _
  simp only [List.append_nil]

@[simp]
theorem empty_append (s : Sketch) : empty ++ s = s := rfl

@[simp]
theorem flatMap_nil {α : Type} (f : α → Sketch) : flatMap [] f = empty := rfl

theorem flatMap_cons {α : Type} (x : α) (xs : List α) (f : α → Sketch) :
    flatMap (x :: xs) f = f x ++ flatMap xs f := rfl

theorem flatMap_map {α β : Type} (xs : List α) (g : α → β) (f : β → Sketch) :
    flatMap (xs.map g) f = flatMap xs fun x => f (g x) := by
  rw [flatMap, flatMap, List.flatMap_map, List.flatMap_map]

theorem flatMap_empty {α : Type} (xs : List α) : flatMap xs (fun _ => empty) = empty := by
  induction xs with
  | nil => rfl
  | cons x xs ih => rw [flatMap_cons, ih, empty_append]

@[simp]
theorem withoutPorts_append (s t : Sketch) :
    (s ++ t).withoutPorts = s.withoutPorts ++ t.withoutPorts := by
  unfold withoutPorts
  rw [declarations_append, frames_append, List.filter_append, Frame.withoutPortsOf_append]
  rfl

@[simp]
theorem withoutPorts_flatMap {α : Type} (xs : List α) (f : α → Sketch) :
    (flatMap xs f).withoutPorts = flatMap xs fun x => (f x).withoutPorts := by
  induction xs with
  | nil => rfl
  | cons x xs ih => rw [flatMap_cons, flatMap_cons, withoutPorts_append, ih]

theorem withoutPorts_single (d : Declaration) :
    (single d).withoutPorts = if d.isPort then empty else single d := by
  unfold withoutPorts single
  cases h : d.isPort <;> simp [h, Frame.withoutPortsOf, empty]

theorem withoutPorts_framed {key : String} {attrs : Attrs} {s : Sketch}
    (h : s.declarations = [] ∨ ∃ d ∈ s.declarations, d.isPort = false) :
    (framed key attrs s).withoutPorts = framed key attrs s.withoutPorts := by
  have hheld : (⟨key, attrs, s.declarations, s.frames⟩ : Frame).holdsPorts = false := by
    unfold Frame.holdsPorts
    rcases h with h | ⟨d, hd, hport⟩
    · simp [h]
    · have hall : s.declarations.all (·.isPort) = false := by
        rw [List.all_eq_false]
        exact ⟨d, hd, by simp [hport]⟩
      simp [hall]
  simp [withoutPorts, framed, Frame.withoutPortsOf, hheld, Frame.withoutPorts]

end Sketch

-- ════════════════════════════════════════════════════════════════════════
-- What a sketch describes
-- ════════════════════════════════════════════════════════════════════════

/-- An identifier that is made from a name, with a number at its end if the name was taken. -/
inductive Dot.Id.MadeFrom (name : String) : String → Prop where
  | plain : MadeFrom name (Id.ofName name)
  | numbered (n : Nat) : MadeFrom name (Id.suffixed (Id.ofName name) n)

theorem IdPool.madeFrom_choose (pool : IdPool) (key : String) :
    Id.MadeFrom key (pool.choose key).1 := by
  obtain ⟨-, heq⟩ | ⟨-, n, -, -, -, heq⟩ := pool.choose_cases key
  · exact heq ▸ .plain
  · exact heq ▸ .numbered n

/-- A cluster that a frame describes: its nodes belong to the declarations in order, and its inner
    clusters to the inner frames. Its ordering edges are left out of account. -/
inductive Dot.Cluster.Depicts (shows : Declaration → Node → Prop) : Frame → Cluster → Prop where
  | intro {key : String} {attrs : Attrs} {declarations : List Declaration} {frames : List Frame}
      {id : String} {nodes : List Node} {clusters : List Cluster} {ordering : List Edge}
      (hid : Id.MadeFrom ("cluster_" ++ key) id)
      (hnodes : List.Forall₂ shows declarations nodes)
      (hclusters : List.Forall₂ (Depicts shows) frames clusters) :
      Depicts shows ⟨key, attrs, declarations, frames⟩ ⟨id, attrs, nodes, clusters, ordering⟩

/-- A layer that a sketch describes. -/
structure Layer.Depicts (shows : Declaration → Node → Prop) (l : Layer) (s : Sketch) : Prop where
  nodes : List.Forall₂ shows s.declarations l.nodes
  clusters : List.Forall₂ (Cluster.Depicts shows) s.frames l.clusters

namespace Layer.Depicts

variable {shows : Declaration → Node → Prop} {l l' : Layer} {s s' : Sketch}

theorem empty : Layer.empty.Depicts shows .empty :=
  ⟨.nil, .nil⟩

theorem append (h : l.Depicts shows s) (h' : l'.Depicts shows s') :
    (l ++ l').Depicts shows (s ++ s') :=
  ⟨List.rel_append h.nodes h'.nodes, List.rel_append h.clusters h'.clusters⟩

theorem framed (h : l.Depicts shows s) {key id : String} (hid : Id.MadeFrom ("cluster_" ++ key) id)
    (attrs : Attrs) :
    (Layer.ofCluster ⟨id, attrs, l.nodes, l.clusters, l.ordering⟩).Depicts shows
      (.framed key attrs s) :=
  ⟨.nil, .cons (.intro hid h.nodes h.clusters) .nil⟩

end Layer.Depicts

/-- Every declaration is shown by its node, if its identifier is made from its key. -/
def ShowsCalls (shows : Declaration → Node → Prop) (calls : List Call) : Prop :=
  ∀ call ∈ calls, Id.MadeFrom call.1.key call.2 → shows call.1 (Call.node call)

-- ════════════════════════════════════════════════════════════════════════
-- Programs with a sketch
-- ════════════════════════════════════════════════════════════════════════

/-- An outline without comments and without the group of equal rank. -/
def Outline.bare (o : Outline) : Outline :=
  { o with graph := { o.graph with comments := [], sameRank := [] } }

theorem Outline.bare_grow (o : Outline) (l : Layer) : (o.grow l).bare = o.bare.grow l := by
  obtain ⟨graph, _ | ⟨inner, outer⟩⟩ := o <;> rfl

theorem Outline.bare_close (o : Outline) : o.close.bare = o.bare.close := by
  obtain ⟨graph, _ | ⟨inner, outer⟩⟩ := o
  · rfl
  · exact Outline.bare_grow ..

/-- The tree of nodes, clusters and ordering edges on a canvas, with the open clusters. -/
def Canvas.tree (c : Canvas) : Outline :=
  c.outline.bare

theorem Canvas.tree_eq_grow {c c' : Canvas} {l : Layer} (h : c'.outline = c.outline.grow l) :
    c'.tree = c.tree.grow l := by
  rw [tree, h, Outline.bare_grow]
  rfl

/-- From every canvas, the program appends a layer to the innermost open cluster that the sketch
    describes, whatever shows the declarations that are made. -/
def Sketches {α : Type} (m : Draw α) (s : Sketch) : Prop :=
  ∀ c : Canvas, ∃ es l, (m c).2 = run es c ∧ (m c).2.tree = c.tree.grow l ∧
    ∀ shows, ShowsCalls shows (logOf es c).calls → l.Depicts shows s

namespace Sketches

variable {α β : Type} {s s' : Sketch}

/-- A step that declares nothing and leaves nodes and clusters as they are. -/
theorem silent {m : Draw α} (e : Event) (happly : ∀ c, (m c).2 = e.apply c)
    (htree : ∀ c, ∃ ordering, (m c).2.tree = c.tree.grow (.ofOrdering ordering)) :
    Sketches m .empty := by
  intro c
  obtain ⟨ordering, hordering⟩ := htree c
  exact ⟨[e], .ofOrdering ordering, happly c, hordering, fun _ _ => ⟨.nil, .nil⟩⟩

theorem pure {a : α} : Sketches (Pure.pure a : Draw α) .empty :=
  fun _ => ⟨[], .empty, rfl, (Outline.grow_empty _).symm, fun _ _ => .empty⟩

/-- What a program goes on with may depend on what is known of all its results. -/
theorem bindOf {m : Draw α} {f : α → Draw β} {P : α → Prop} (hm : Sketches m s)
    (hP : ∀ c, P (m c).1) (hf : ∀ a, P a → Sketches (f a) s') : Sketches (m >>= f) (s ++ s') := by
  intro c
  obtain ⟨es, l, hrun, htree, hl⟩ := hm c
  obtain ⟨es', l', hrun', htree', hl'⟩ := hf (m c).1 (hP c) (m c).2
  refine ⟨es ++ es', l ++ l', ?_, ?_, fun shows hshows => ?_⟩
  · rw [run_append, ← hrun]
    exact hrun'
  · rw [← Outline.grow_grow, ← htree]
    exact htree'
  · rw [logOf_append, Log.calls_append, ← hrun] at hshows
    have hboth := List.forall_mem_append.1 hshows
    exact (hl shows hboth.1).append (hl' shows hboth.2)

theorem bind {m : Draw α} {f : α → Draw β} (hm : Sketches m s) (hf : ∀ a, Sketches (f a) s') :
    Sketches (m >>= f) (s ++ s') :=
  hm.bindOf (P := fun _ => True) (fun _ => trivial) fun a _ => hf a

/-- What follows a program without declaring anything does not matter. -/
theorem andThen {m : Draw α} {f : α → Draw β} (hm : Sketches m s)
    (hf : ∀ a, Sketches (f a) .empty) : Sketches (m >>= f) s := by
  have h := hm.bind hf
  rwa [Sketch.append_empty] at h

/-- What comes before a program without declaring anything does not matter. -/
theorem after {m : Draw α} {f : α → Draw β} (hm : Sketches m .empty)
    (hf : ∀ a, Sketches (f a) s) : Sketches (m >>= f) s :=
  hm.bind hf

theorem flatMap {f : α → Draw β} {g : α → Sketch} {xs : List α} (h : ∀ x, Sketches (f x) (g x)) :
    Sketches (xs.mapM f) (.flatMap xs g) := by
  induction xs with
  | nil => exact pure
  | cons x xs ih =>
    rw [List.mapM_cons, Sketch.flatMap_cons]
    exact (h x).bind fun _ => ih.andThen fun _ => pure

theorem forM_empty {f : α → Draw PUnit} {xs : List α} (h : ∀ x, Sketches (f x) .empty) :
    Sketches (xs.forM f) .empty := by
  induction xs with
  | nil => exact pure
  | cons x xs ih => exact (h x).after fun _ => ih

theorem declare (d : Declaration) : Sketches (InfraDiagram.declare d) (.single d) := by
  intro c
  refine ⟨[.node d], _, rfl, Canvas.tree_eq_grow (c.outline_declareNode d), fun shows hshows => ?_⟩
  exact ⟨.cons (hshows _ List.mem_cons_self (c.nodeIds.madeFrom_choose d.key)) .nil, .nil⟩

theorem edge (source target : String) (attrs : Attrs) :
    Sketches (InfraDiagram.edge source target attrs) .empty := by
  refine .silent (.edge source target attrs) (fun _ => rfl) fun c => ⟨[], ?_⟩
  have houtline : (InfraDiagram.edge source target attrs c).2.outline = c.outline := by
    rw [edge_apply]
    split_ifs <;> rfl
  exact Canvas.tree_eq_grow (houtline.trans (Outline.grow_empty _).symm)

theorem orderingEdge (source target : String) :
    Sketches (InfraDiagram.orderingEdge source target) .empty := by
  refine .silent (.ordering source target) (fun _ => rfl) fun c => ?_
  rw [orderingEdge_apply]
  split_ifs
  · exact ⟨_, Canvas.tree_eq_grow (c.outline_placeOrdering _)⟩
  · exact ⟨[], (Outline.grow_empty _).symm⟩

theorem comment (text : String) : Sketches (InfraDiagram.comment text) .empty :=
  .silent (.comment text) (fun _ => rfl) fun _ => ⟨[], (Outline.grow_empty _).symm⟩

theorem warn (d : Diagnostic) : Sketches (InfraDiagram.warn d) .empty :=
  .silent (.warn d) (fun _ => rfl) fun _ => ⟨[], (Outline.grow_empty _).symm⟩

theorem inCluster {key : String} {attrs : Attrs} {body : Draw α} (h : Sketches body s) :
    Sketches (InfraDiagram.inCluster key attrs body) (.framed key attrs s) := by
  intro c
  obtain ⟨es, l, hrun, htree, hl⟩ := h (c.openCluster key attrs)
  have hid := c.clusterIds.madeFrom_choose ("cluster_" ++ key)
  refine ⟨.opening key attrs :: (es ++ [.closing]), _, ?_, ?_, fun shows hshows =>
    (hl shows ?_).framed hid attrs⟩
  · rw [run_cons, run_append]
    exact congrArg Canvas.closeCluster hrun
  · change (body (c.openCluster key attrs)).2.closeCluster.tree = _
    rw [Canvas.tree, Canvas.outline_closeCluster, Outline.bare_close]
    exact (congrArg Outline.close htree).trans (Outline.close_grow_open c.tree _ attrs l)
  · have hlog : logOf (.opening key attrs :: (es ++ [.closing])) c =
        logOf es (c.openCluster key attrs) := by
      have hempty : logOf [.closing] (run es (c.openCluster key attrs)) = .empty := rfl
      rw [logOf, logOf_append]
      exact hempty ▸ Log.append_empty _
    rwa [hlog] at hshows

/-- What a program draws on a canvas without nodes and clusters. -/
theorem at_top {m : Draw α} (h : Sketches m s) {c : Canvas} (hscopes : c.scopes = [])
    (hlayer : c.layer = .empty) :
    (m c).2.scopes = [] ∧ ∃ es, (m c).2 = run es c ∧
      ∀ shows, ShowsCalls shows (logOf es c).calls → (m c).2.layer.Depicts shows s := by
  obtain ⟨es, l, hrun, htree, hl⟩ := h c
  have hgrown : c.tree.grow l = ⟨{ c.tree.graph with
      nodes := c.graph.nodes ++ l.nodes
      clusters := c.graph.clusters ++ l.clusters
      ordering := c.graph.ordering ++ l.ordering }, []⟩ := by
    unfold Outline.grow Canvas.tree Outline.bare Canvas.outline
    rw [hscopes]
  rw [hgrown] at htree
  have hall : (m c).2.layer = l := by
    have hgraph := congrArg (fun o : Outline =>
      Layer.mk o.graph.nodes o.graph.clusters o.graph.ordering) htree
    exact hgraph.trans (congrArg (· ++ l) hlayer)
  exact ⟨congrArg Outline.scopes htree, es, hrun, hall ▸ hl⟩

end Sketches

theorem sketches_orderChain (ids : List String) : Sketches (orderChain ids) .empty :=
  Sketches.forM_empty fun _ => .orderingEdge _ _

theorem sketches_sideBySide (ids : List String) : Sketches (sideBySide ids) .empty := by
  unfold sideBySide
  split_ifs
  · exact .silent (.sameRank ids) (fun _ => rfl) fun _ => ⟨[], (Outline.grow_empty _).symm⟩
  · exact .pure

theorem sketches_aboveFirst {α : Type} (above : String) (f : α → String) (xs : List α) :
    Sketches (xs.head?.forM fun first => orderingEdge above (f first)) .empty := by
  cases xs with
  | nil => exact .pure
  | cons x xs => exact .orderingEdge above (f x)

-- ════════════════════════════════════════════════════════════════════════
-- The sketch of each kind of diagram
-- ════════════════════════════════════════════════════════════════════════

/-- A sketch without ports. -/
def Sketch.PortFree (s : Sketch) : Prop :=
  s.withoutPorts = s

namespace Sketch.PortFree

variable {s t : Sketch}

theorem eq (h : s.PortFree) : s.withoutPorts = s := h

theorem empty : Sketch.empty.PortFree := rfl

theorem single {d : Declaration} (h : d.isPort = false) : (Sketch.single d).PortFree := by
  rw [PortFree, withoutPorts_single, h]
  rfl

theorem append (hs : s.PortFree) (ht : t.PortFree) : (s ++ t).PortFree := by
  rw [PortFree, withoutPorts_append, hs, ht]

theorem flatMap {α : Type} {f : α → Sketch} (h : ∀ x, (f x).PortFree) (xs : List α) :
    (Sketch.flatMap xs f).PortFree := by
  rw [PortFree, withoutPorts_flatMap]
  exact congrArg (Sketch.flatMap xs) (funext h)

theorem framed (h : s.PortFree) (key : String) (attrs : Attrs) :
    (Sketch.framed key attrs s).PortFree := by
  have hnone : s.declarations = [] ∨ ∃ d ∈ s.declarations, d.isPort = false := by
    cases hs : s.declarations with
    | nil => exact .inl rfl
    | cons d ds =>
      have hall := List.filter_eq_self.1 (congrArg declarations h) d (by simp [hs])
      exact .inr ⟨d, by simp, by simpa using hall⟩
  rw [PortFree, withoutPorts_framed hnone, h]

end Sketch.PortFree

/-- A frame around a node that is no port stays when the ports in it are erased. -/
theorem Sketch.withoutPorts_around {d : Declaration} (hd : d.isPort = false) (key : String)
    (attrs : Attrs) (s : Sketch) :
    (Sketch.framed key attrs (.single d ++ s)).withoutPorts =
      .framed key attrs (.single d ++ s.withoutPorts) := by
  have hfree : (Sketch.single d).PortFree := .single hd
  rw [withoutPorts_framed (.inr ⟨d, List.mem_cons_self, hd⟩), withoutPorts_append, hfree]

/-- A program makes as many results as it has items. -/
theorem length_mapM_draw {α β : Type} (f : α → Draw β) (xs : List α) (c : Canvas) :
    (xs.mapM f c).1.length = xs.length := by
  induction xs generalizing c with
  | nil => rfl
  | cons x xs ih =>
    rw [List.mapM_cons, bind_apply]
    exact congrArg (· + 1) (ih (f x c).2)

/-- Entities that are one node each. -/
def Sketch.entities {α : Type} (declaration : α → Declaration) (xs : List α) : Sketch :=
  .flatMap xs fun x => .single (declaration x)

theorem Sketches.entities {α β : Type} (declaration : α → Declaration) (f : α → String → β)
    (xs : List α) :
    Sketches
      (xs.mapM fun x => do
        let node ← InfraDiagram.declare (declaration x)
        return f x node)
      (.entities declaration xs) :=
  .flatMap fun x => (Sketches.declare (declaration x)).andThen fun _ => .pure

theorem Sketch.PortFree.entities {α : Type} {declaration : α → Declaration}
    (h : ∀ x, (declaration x).isPort = false) (xs : List α) :
    (Sketch.entities declaration xs).PortFree :=
  .flatMap (fun x => .single (h x)) xs

/-- The devices of a list, as topologies and intents show them. -/
def Sketch.devices (devices : List Device) : Sketch :=
  .entities (fun d => d.declaration .device false) devices

def Sketch.zoned (devices : List Device) : Sketch :=
  Sketch.devices (devices.filter (·.zone.isNone)) ++
    .flatMap (zonesOf devices) fun zone =>
      .framed ("zone_" ++ zone) (Style.cluster (some zone))
        (.devices (devices.filter (·.zone == some zone)))

theorem sketches_zoned (devices : List Device) : Sketches (drawZoned devices) (.zoned devices) := by
  refine (Sketches.entities _ _ _).bind fun free => ?_
  exact (Sketches.flatMap fun zone => .inCluster (.entities _ _ _)).andThen fun _ => .pure

theorem Sketch.portFree_zoned (devices : List Device) : (Sketch.zoned devices).PortFree := by
  have hdevices : ∀ devices, (Sketch.devices devices).PortFree := .entities fun _ => rfl
  exact (hdevices _).append (.flatMap (fun _ => (hdevices _).framed _ _) _)

theorem sketches_intent (note : Declaration) (devices : List Device) :
    Sketches (drawIntent note devices) (.single note ++ .zoned devices) :=
  (Sketches.declare note).bind fun noteId => (sketches_zoned devices).andThen fun placed =>
    (sketches_aboveFirst noteId Placement.node placed).andThen fun _ => .pure

/-- The ports of a device, if ports are drawn. -/
def Sketch.ports (d : Device) (includePorts : Bool) : Sketch :=
  .flatMap (d.shownPorts includePorts) fun p => .single (p.declaration d.id)

@[simp]
theorem Sketch.withoutPorts_ports (d : Device) (includePorts : Bool) :
    (Sketch.ports d includePorts).withoutPorts = .empty := by
  rw [ports, withoutPorts_flatMap]
  exact flatMap_empty _

theorem Device.sketches_ports (d : Device) : Sketches d.drawPorts (.ports d true) :=
  Sketches.entities _ _ _

theorem Device.sketches_placeAt (d : Device) (node : String) (options : RenderOptions) :
    Sketches (d.placeAt node options) (.ports d options.includePorts) := by
  unfold placeAt
  cases options.includePorts with
  | false => exact Sketches.pure.andThen fun _ => .pure
  | true =>
    refine Sketches.andThen (.flatMap fun p => ?_) fun _ => .pure
    have hport : Sketches (p.draw d.id) (.single (p.declaration d.id)) :=
      (Sketches.declare _).andThen fun _ => .pure
    exact hport.andThen fun port => (Sketches.edge node port.2 _).andThen fun _ => .pure

def Device.sketchStack (d : Device) (includePorts : Bool) : Sketch :=
  .framed d.id (Style.cluster none) (.single d.anchorDeclaration ++ .ports d includePorts)

theorem sketches_stack (d : Device) (options : RenderOptions) :
    Sketches (d.drawStack options) (d.sketchStack options.includePorts) := by
  refine .inCluster ((Sketches.declare d.anchorDeclaration).bind fun anchor => ?_)
  cases options.includePorts with
  | false => exact Sketches.pure.after fun _ => (sketches_orderChain _).andThen fun _ => .pure
  | true => exact d.sketches_ports.andThen fun _ => (sketches_orderChain _).andThen fun _ => .pure

theorem Device.withoutPorts_sketchStack (d : Device) (includePorts : Bool) :
    (d.sketchStack includePorts).withoutPorts = d.sketchStack false := by
  rw [sketchStack, Sketch.withoutPorts_around rfl, Sketch.withoutPorts_ports]
  rfl

/-- The frame of a server's ports; a server without ports has none. -/
def Device.sketchPortFrame (server : Device) (includePorts : Bool) : Sketch :=
  if includePorts && !server.ports.isEmpty then
    .framed (server.id ++ "_ports") (Style.cluster (some "Ports")) (.ports server true)
  else .empty

theorem Device.sketches_portFrame (server : Device) (anchor : String) :
    Sketches (server.drawPortFrame anchor)
      (.framed (server.id ++ "_ports") (Style.cluster (some "Ports")) (.ports server true)) := by
  refine Sketches.andThen (.inCluster ?_) fun ports => ?_
  · exact server.sketches_ports.andThen fun _ => (sketches_orderChain _).andThen fun _ => .pure
  · exact (sketches_aboveFirst anchor Prod.snd ports).andThen fun _ => .pure

/-- Without ports, nothing is left of the frame of a server's ports. -/
theorem Device.withoutPorts_sketchPortFrame (server : Device) (includePorts : Bool) :
    (server.sketchPortFrame includePorts).withoutPorts = .empty := by
  unfold sketchPortFrame
  split_ifs with h
  · obtain ⟨p, ps, hports⟩ := List.exists_cons_of_ne_nil (l := server.ports)
      (by rintro hnil; simp [hnil] at h)
    have hheld : (⟨server.id ++ "_ports", Style.cluster (some "Ports"),
        (Sketch.ports server true).declarations, (Sketch.ports server true).frames⟩ :
          Frame).holdsPorts = true := by
      have hdeclarations : (Sketch.ports server true).declarations =
          server.ports.map fun p => p.declaration server.id := List.map_eq_flatMap.symm
      have hframes : (Sketch.ports server true).frames = [] :=
        List.flatMap_eq_nil_iff.2 fun _ _ => rfl
      rw [Frame.holdsPorts, hdeclarations, hframes, hports]
      simp [Declaration.isPort, Port.declaration]
    simp [Sketch.withoutPorts, Sketch.framed, Frame.withoutPortsOf, hheld, Sketch.empty]
  · rfl

def Device.sketchServer (server : Device) (includePorts : Bool) : Sketch :=
  .framed server.id (Style.cluster none)
    (.single server.serverDeclaration ++ server.sketchPortFrame includePorts)

theorem sketches_server (server : Device) (options : RenderOptions) :
    Sketches (server.drawServer options) (server.sketchServer options.includePorts) := by
  refine .inCluster ((Sketches.declare server.serverDeclaration).bind fun anchor => ?_)
  unfold Device.sketchPortFrame
  split_ifs
  · exact (server.sketches_portFrame anchor).andThen fun _ => .pure
  · exact Sketches.pure.andThen fun _ => .pure

theorem Device.withoutPorts_sketchServer (server : Device) (includePorts : Bool) :
    (server.sketchServer includePorts).withoutPorts = server.sketchServer false := by
  rw [sketchServer, Sketch.withoutPorts_around rfl, withoutPorts_sketchPortFrame]
  rfl

def Sketch.servers (servers peers : List Device) (includePorts : Bool) : Sketch :=
  .flatMap servers (fun s => s.sketchServer includePorts) ++ .entities Device.peerDeclaration peers

theorem sketches_servers (servers peers : List Device) (options : RenderOptions) :
    Sketches (drawServers servers peers options)
      (.servers servers peers options.includePorts) := by
  refine (Sketches.flatMap fun s => sketches_server s options).bind fun placed => ?_
  have hpeers : Sketches (peers.mapM Device.drawPeer) (.entities Device.peerDeclaration peers) :=
    .entities _ _ _
  exact (sketches_orderChain _).after fun _ => hpeers.andThen fun _ => .pure

theorem Sketch.withoutPorts_servers (servers peers : List Device) (includePorts : Bool) :
    (Sketch.servers servers peers includePorts).withoutPorts = .servers servers peers false := by
  have hpeers : (Sketch.entities Device.peerDeclaration peers).PortFree :=
    .entities (fun _ => rfl) peers
  rw [Sketch.servers, withoutPorts_append, withoutPorts_flatMap, hpeers.eq]
  simp only [Device.withoutPorts_sketchServer]
  rfl

def Rack.sketch (rack : Rack) (entity : EntityType) (includePorts : Bool) : Sketch :=
  .framed rack.id (Style.cluster none)
    (.single rack.anchor ++
      (.entities (fun d => d.declaration entity true) (displayOrder rack.devices) ++
        .flatMap (displayOrder rack.devices) fun d => .ports d includePorts))

theorem sketches_rack (rack : Rack) (entity : EntityType) (options : RenderOptions) :
    Sketches (rack.draw entity options) (rack.sketch entity options.includePorts) := by
  refine .inCluster ((Sketches.declare rack.anchor).bind fun anchor => ?_)
  have hdevices : Sketches
      ((Rack.displayOrder rack.devices).mapM fun d => declare (d.declaration entity true))
      (.entities (fun d => d.declaration entity true) (Rack.displayOrder rack.devices)) :=
    .flatMap fun d => .declare (d.declaration entity true)
  refine hdevices.bindOf (P := fun nodes => nodes.length = (Rack.displayOrder rack.devices).length)
    (length_mapM_draw _ _) fun nodes hlength => ?_
  have hplaced : Sketches
      (((Rack.displayOrder rack.devices).zip nodes).mapM fun x => x.1.placeAt x.2 options)
      (.flatMap ((Rack.displayOrder rack.devices).zip nodes) fun x =>
        .ports x.1 options.includePorts) := .flatMap fun x => x.1.sketches_placeAt x.2 options
  rw [← Sketch.flatMap_map _ Prod.fst fun d => .ports d options.includePorts,
    List.map_fst_zip hlength.ge] at hplaced
  exact hplaced.andThen fun _ => (sketches_orderChain _).andThen fun _ => .pure

theorem Rack.withoutPorts_sketch (rack : Rack) {entity : EntityType} (h : entity ≠ .port)
    (includePorts : Bool) :
    (rack.sketch entity includePorts).withoutPorts = rack.sketch entity false := by
  have hdevices : (Sketch.entities (fun d => d.declaration entity true)
      (displayOrder rack.devices)).PortFree :=
    .entities (fun d => beq_eq_false_iff_ne.2 h) _
  rw [sketch, Sketch.withoutPorts_around rfl]
  simp only [Sketch.withoutPorts_append, hdevices.eq, Sketch.withoutPorts_flatMap,
    Sketch.withoutPorts_ports]
  rfl

/-- The racks of a diagram, in the frame of their site if there is one. -/
def Sketch.racks (site : Option Site) (racks : List Rack) (entity : EntityType)
    (includePorts : Bool) : Sketch :=
  match site with
  | some s => .framed ("site_" ++ s.id) (Style.cluster (some s.label))
      (.flatMap racks fun rack => rack.sketch entity includePorts)
  | none => .flatMap racks fun rack => rack.sketch entity includePorts

theorem sketches_rackDiagram (site : Option Site) (racks : List Rack) (entity : EntityType)
    (options : RenderOptions) :
    Sketches (drawRackDiagram site racks entity options)
      (.racks site racks entity options.includePorts) := by
  have hracks : Sketches (drawRacks racks entity options)
      (.flatMap racks fun rack => rack.sketch entity options.includePorts) :=
    .flatMap fun rack => sketches_rack rack entity options
  cases site with
  | none => exact hracks.andThen fun _ => (sketches_sideBySide _).andThen fun _ => .pure
  | some s =>
    exact hracks.inCluster.andThen fun _ => (sketches_sideBySide _).andThen fun _ => .pure

theorem Sketch.withoutPorts_racks (site : Option Site) (racks : List Rack) {entity : EntityType}
    (h : entity ≠ .port) (includePorts : Bool) :
    (Sketch.racks site racks entity includePorts).withoutPorts =
      .racks site racks entity false := by
  have hracks : (Sketch.flatMap racks fun rack => rack.sketch entity includePorts).withoutPorts =
      .flatMap racks fun rack => rack.sketch entity false := by
    rw [withoutPorts_flatMap]
    exact congrArg _ (funext fun rack => rack.withoutPorts_sketch h includePorts)
  cases site with
  | none => exact hracks
  | some s =>
    have hnone : (Sketch.flatMap racks fun rack => rack.sketch entity includePorts).declarations =
        [] := List.flatMap_eq_nil_iff.2 fun _ _ => rfl
    rw [Sketch.racks, withoutPorts_framed (.inl hnone), hracks]
    rfl

end InfraDiagram

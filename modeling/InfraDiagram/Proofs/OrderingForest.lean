import InfraDiagram.Proofs.DeclaredEnds
import InfraDiagram.Proofs.RackLayout
import Mathlib.Logic.Relation

/-!
# Ordering edges form a forest

The ordering edges of a diagram lead forward in the order in which the nodes are declared, and no
two of them lead to the same node. So they have no cycle, and a node has one predecessor at most.
Each of them stays within the cluster that it belongs to.

## Main definitions

- `Cluster.Inside` — the clusters of a tree at any depth
- `Layer.Woven` — a layer whose ordering edges lead forward, and the roots that are left
- `Weaves` — programs that append such layers

## Main statements

- `Layer.Woven.append`, `Layer.Woven.cluster`, `Layer.Woven.chain` — how such layers are built
- `weaves_of_scene` — every scene draws one
- `orderingForest_of_generate` — what follows for results
-/

namespace InfraDiagram

open Dot

-- ════════════════════════════════════════════════════════════════════════
-- Clusters at any depth
-- ════════════════════════════════════════════════════════════════════════

/-- A cluster that is one of the given ones or lies within one of them. -/
inductive Dot.Cluster.Inside (c : Cluster) : List Cluster → Prop where
  | here {cs : List Cluster} (h : c ∈ cs) : Inside c cs
  | deeper {cs : List Cluster} {d : Cluster} (hd : d ∈ cs) (h : Inside c d.clusters) : Inside c cs

theorem Dot.Cluster.Inside.append_cases {c : Cluster} {cs ds : List Cluster}
    (h : c.Inside (cs ++ ds)) : c.Inside cs ∨ c.Inside ds := by
  cases h with
  | here hc => exact (List.mem_append.1 hc).imp .here .here
  | deeper hd h => exact (List.mem_append.1 hd).imp (.deeper · h) (.deeper · h)

theorem Dot.Cluster.Inside.single_cases {c d : Cluster} (h : c.Inside [d]) :
    c = d ∨ c.Inside d.clusters := by
  cases h with
  | here hc => exact .inl (List.mem_singleton.1 hc)
  | deeper hd h => exact .inr (List.mem_singleton.1 hd ▸ h)

/-- What lies within an inner cluster lies within the outer one. -/
theorem Dot.Cluster.Inside.within {c d : Cluster} {cs : List Cluster} (h : c.Inside d.clusters)
    (hd : d.Inside cs) : c.Inside cs := by
  induction hd with
  | here hd => exact .deeper hd h
  | deeper hd' _ ih => exact .deeper hd' ih

theorem Dot.Cluster.not_inside_nil {c : Cluster} : ¬ c.Inside [] := by
  rintro (h | ⟨h, -⟩) <;> exact absurd h List.not_mem_nil

/-- A cluster whose own ordering edges connect nodes of it or of clusters within it. -/
def Dot.Cluster.KeepsOrdering (c : Cluster) : Prop :=
  ∀ e ∈ c.ordering, e.source ∈ c.allNodes.map (·.id) ∧ e.target ∈ c.allNodes.map (·.id)

-- ════════════════════════════════════════════════════════════════════════
-- Neighbours
-- ════════════════════════════════════════════════════════════════════════

/-- An edge of a chain leads from an item to one that follows it. -/
theorem sublist_of_mem_chain {ids : List String} {e : Edge} (h : e ∈ chain ids) :
    [e.source, e.target].Sublist ids := by
  obtain ⟨pair, hpair, rfl⟩ := List.mem_map.1 h
  clear h
  induction ids with
  | nil => cases hpair
  | cons first rest ih =>
    cases rest with
    | nil => cases hpair
    | cons second rest =>
      rcases List.mem_cons.1 hpair with rfl | hpair
      · exact ((List.nil_sublist rest).cons_cons second).cons_cons first
      · exact (ih hpair).cons first

/-- A chain leads to all of its items but the first. -/
theorem map_target_chain (ids : List String) : (chain ids).map (·.target) = ids.tail := by
  rw [chain, List.map_map]
  exact List.map_snd_zip (by simp)

/-- Of two items of a list without repetition, one comes first. -/
theorem idxOf_lt_of_sublist {α : Type} [DecidableEq α] {xs : List α} (h : xs.Nodup) {a b : α}
    (hab : [a, b].Sublist xs) : xs.idxOf a < xs.idxOf b := by
  induction xs with
  | nil => cases hab
  | cons x xs ih =>
    obtain ⟨hx, hxs⟩ := List.nodup_cons.1 h
    cases hab with
    | cons _ hab =>
      have hne : ∀ y ∈ [a, b], x ≠ y := fun y hy heq => hx (heq.symm ▸ hab.subset hy)
      rw [List.idxOf_cons_ne _ (hne a (by simp)), List.idxOf_cons_ne _ (hne b (by simp))]
      exact Nat.succ_lt_succ (ih hxs hab)
    | cons_cons _ hb =>
      have hne : a ≠ b := fun heq => hx (heq.symm ▸ List.singleton_sublist.1 hb)
      rw [List.idxOf_cons_self, List.idxOf_cons_ne _ hne]
      exact Nat.succ_pos _

-- ════════════════════════════════════════════════════════════════════════
-- Woven layers
-- ════════════════════════════════════════════════════════════════════════

/-- A layer whose ordering edges lead forward in `order`, the order of its nodes, with at most one
    to each node and none to the roots. No ordering edge leaves its cluster. -/
structure Layer.Woven (l : Layer) (order roots : List String) : Prop where
  ids : order.Perm l.ids
  forward : ∀ e ∈ l.allOrdering, [e.source, e.target].Sublist order
  once : (l.allOrdering.map (·.target) ++ roots).Subperm order
  roots : roots.Sublist order
  kept : ∀ c : Cluster, c.Inside l.clusters → c.KeepsOrdering

namespace Layer

namespace Woven

variable {l l' : Layer} {order order' roots roots' : List String}

theorem empty : Layer.empty.Woven [] [] where
  ids := .refl _
  forward _ h := absurd h List.not_mem_nil
  once := .refl _
  roots := .refl _
  kept _ h := absurd h Cluster.not_inside_nil

theorem mem_ids (h : l.Woven order roots) {id : String} (hid : id ∈ roots) : id ∈ l.ids :=
  h.ids.mem_iff.1 (h.roots.subset hid)

/-- Nodes that are just declared are roots. -/
theorem of_declares {ds : List Declaration} {ids : List String} (h : l.Declares ds ids) :
    l.Woven ids ids := by
  obtain ⟨nodes, clusters, ordering⟩ := l
  obtain rfl : clusters = [] := h.clusters
  obtain rfl : ordering = [] := h.ordering
  exact {
    ids := by simp [Layer.ids, Cluster.allNodesOf, ← h.ids]
    forward := fun _ he => absurd he List.not_mem_nil
    once := .refl _
    roots := .refl _
    kept := fun _ hc => absurd hc Cluster.not_inside_nil }

theorem node (d : Declaration) (id : String) :
    (Layer.ofNode ⟨id, d.key, Canvas.nodeAttrs d⟩).Woven [id] [id] :=
  of_declares (.single d id)

/-- Layers next to each other. -/
theorem append (h : l.Woven order roots) (h' : l'.Woven order' roots') :
    (l ++ l').Woven (order ++ order') (roots ++ roots') where
  ids := (h.ids.append h'.ids).trans (l.ids_append_perm l').symm
  forward := by
    intro e he
    rcases List.mem_append.1 ((l.allOrdering_append_perm l').mem_iff.1 he) with he | he
    · exact (h.forward e he).trans (List.sublist_append_left ..)
    · exact (h'.forward e he).trans (List.sublist_append_right ..)
  once := by
    -- both parts lead to nodes of their own
    have hperm : ((l ++ l').allOrdering.map (·.target) ++ (roots ++ roots')).Perm
        ((l.allOrdering.map (·.target) ++ roots) ++ (l'.allOrdering.map (·.target) ++ roots')) := by
      rw [List.perm_iff_count]
      intro id
      have hcount := ((l.allOrdering_append_perm l').map (·.target)).count_eq id
      simp only [List.map_append, List.count_append] at hcount ⊢
      omega
    exact hperm.subperm.trans (h.once.append h'.once)
  roots := h.roots.append h'.roots
  kept c hc := hc.append_cases.elim (h.kept c) (h'.kept c)

/-- Roots may be left out of account. -/
theorem forget (h : l.Woven order roots) (hsub : roots'.Sublist roots) :
    l.Woven order roots' where
  ids := h.ids
  forward := h.forward
  once := (hsub.append_left _).subperm.trans h.once
  roots := hsub.trans h.roots
  kept := h.kept

/-- A cluster around a layer. -/
theorem cluster (h : l.Woven order roots) (id : String) (attrs : Attrs) :
    (Layer.ofCluster ⟨id, attrs, l.nodes, l.clusters, l.ordering⟩).Woven order roots := by
  have hids : (Layer.ofCluster ⟨id, attrs, l.nodes, l.clusters, l.ordering⟩).ids = l.ids :=
    ids_ofCluster _
  have hordering : (Layer.ofCluster ⟨id, attrs, l.nodes, l.clusters, l.ordering⟩).allOrdering =
      l.allOrdering := allOrdering_ofCluster _
  refine ⟨hids ▸ h.ids, hordering ▸ h.forward, hordering ▸ h.once, h.roots, fun c hc => ?_⟩
  rcases hc.single_cases with rfl | hinner
  · intro e he
    have hmem : ∀ id' ∈ [e.source, e.target], id' ∈ l.ids := fun id' hid =>
      h.ids.mem_iff.1 ((h.forward e (List.mem_append_left _ he)).subset hid)
    simp only [Cluster.allNodes_eq]
    exact ⟨hmem _ (by simp), hmem _ (by simp)⟩
  · exact h.kept c hinner

/-- The roots of a layer may be put below each other; then the first of them is a root. -/
theorem chain (h : l.Woven order roots) :
    (l ++ .ofOrdering (chain roots)).Woven order (roots.take 1) := by
  have hordering : (l ++ .ofOrdering (InfraDiagram.chain roots)).allOrdering.Perm
      (l.allOrdering ++ InfraDiagram.chain roots) := by
    refine (l.allOrdering_append_perm _).trans (.of_eq ?_)
    simp [allOrdering, ofOrdering, Cluster.allOrderingOf]
  refine ⟨?_, fun e he => ?_, ?_, (List.take_sublist 1 _).trans h.roots, ?_⟩
  · refine h.ids.trans (.of_eq ?_)
    simp [Layer.ids, ofOrdering]
  · rcases List.mem_append.1 (hordering.mem_iff.1 he) with he | he
    · exact h.forward e he
    · exact (sublist_of_mem_chain he).trans h.roots
  · have htargets : ((l ++ .ofOrdering (InfraDiagram.chain roots)).allOrdering.map (·.target) ++
        roots.take 1).Perm (l.allOrdering.map (·.target) ++ roots) := by
      have hroots : (roots.tail ++ roots.take 1).Perm roots := by
        rw [← List.drop_one]
        exact List.perm_append_comm.trans (.of_eq (List.take_append_drop 1 roots))
      refine ((hordering.map _).append_right _).trans ?_
      rw [List.map_append, map_target_chain, List.append_assoc]
      exact hroots.append_left _
    exact htargets.subperm.trans h.once
  · intro c hc
    rw [clusters_append] at hc
    exact hc.append_cases.elim (h.kept c) fun hnone => absurd hnone Cluster.not_inside_nil

end Woven

end Layer

-- ════════════════════════════════════════════════════════════════════════
-- Programs that weave
-- ════════════════════════════════════════════════════════════════════════

/-- The program appends a woven layer; the roots that its result names are left. -/
def Weaves {α : Type} (needs : List String) (m : Draw α) (roots : α → List String) : Prop :=
  Lays needs m fun l a => ∃ order, l.Woven order (roots a)

namespace Weaves

variable {α β : Type} {needs : List String} {roots : α → List String} {roots' : β → List String}

theorem declare (d : Declaration) : Weaves needs (InfraDiagram.declare d) fun id => [id] :=
  (Lays.declare d).mono fun _ id hl => ⟨[id], hl ▸ .node d id⟩

theorem map {m : Draw α} {f : α → β} (h : Weaves needs m roots)
    (hf : ∀ a, (roots' (f a)).Sublist (roots a)) :
    Weaves needs (m >>= fun a => Pure.pure (f a)) roots' :=
  Lays.map h fun _ a ⟨order, hl⟩ => ⟨order, hl.forget (hf a)⟩

theorem mapM {f : α → Draw β} {xs : List α} (h : ∀ x ∈ xs, Weaves needs (f x) roots') :
    Weaves needs (xs.mapM f) fun ys => ys.flatMap roots' := by
  refine (Lays.mapM h).mono fun l ys hl => ?_
  induction hl with
  | nil => exact ⟨[], .empty⟩
  | cons hfirst _ ih =>
    obtain ⟨order, hfirst⟩ := hfirst
    obtain ⟨order', hrest⟩ := ih fun x hx => h x (List.mem_cons_of_mem _ hx)
    exact ⟨order ++ order', hfirst.append hrest⟩

theorem inCluster {key : String} {attrs : Attrs} {body : Draw α} (h : Weaves needs body roots) :
    Weaves needs (InfraDiagram.inCluster key attrs body) roots :=
  Lays.inCluster (h.mono fun _ _ ⟨order, hl⟩ id => ⟨order, hl.cluster id attrs⟩)

end Weaves

/-- A program that goes on with the result of another one, or with a given result instead. -/
theorem lays_orElse {α β : Type} {needs : List String} {b : Bool} {m : Draw α} {a : α}
    {f : α → Draw β} {post : Layer → α → Prop} {post' : Layer → β → Prop}
    (hm : Lays needs m post) (ha : post .empty a)
    (hf : ∀ l a, post l a → Lays (l.ids ++ needs) (f a) fun l' b => post' (l ++ l') b) :
    Lays needs (if b then m >>= f else pure a >>= f) post' := by
  cases b with
  | true => exact hm.bind hf
  | false => exact (Lays.pure ha).bind hf

/-- An ordering edge to the first of some nodes, if there is one. -/
theorem lays_aboveFirst {α : Type} {needs : List String} {above : String} {f : α → String}
    {xs : List α} (habove : above ∈ needs) (h : ∀ x ∈ xs, f x ∈ needs) :
    Lays needs (xs.head?.forM fun first => orderingEdge above (f first)) fun l _ =>
      l = .ofOrdering (chain (above :: (xs.map f).take 1)) := by
  cases xs with
  | nil => exact .pure rfl
  | cons x xs => exact Lays.orderingEdge habove (h x (by simp))

/-- Entities that are one node each. -/
theorem weaves_entities {α : Type} {needs : List String} (declaration : α → Declaration)
    (key : α → String) (xs : List α) :
    Weaves needs
      (xs.mapM fun x => do
        let node ← declare (declaration x)
        return (⟨key x, node, []⟩ : Placement))
      fun placed => placed.map (·.node) := by
  simp only [List.map_eq_flatMap]
  exact .mapM fun x _ => (Weaves.declare (declaration x)).map fun _ => List.Sublist.refl _

theorem weaves_ports {needs : List String} (d : Device) :
    Weaves needs d.drawPorts fun ports => ports.map Prod.snd := by
  simp only [List.map_eq_flatMap]
  exact .mapM fun p _ => (Weaves.declare (p.declaration d.id)).map fun _ => List.Sublist.refl _

theorem weaves_zoned {needs : List String} (devices : List Device) :
    Weaves needs (drawZoned devices) fun placed => placed.map (·.node) := by
  have hdevices : ∀ (needs : List String) (devices : List Device),
      Weaves needs (drawDevices devices) fun placed => placed.map (·.node) :=
    fun _ devices => weaves_entities _ _ devices
  refine Lays.bind (hdevices needs _) fun l free ⟨order, hfree⟩ => ?_
  have hzones : Weaves (l.ids ++ needs)
      ((zonesOf devices).mapM fun zone =>
        inCluster ("zone_" ++ zone) (Style.cluster (some zone))
          (drawDevices (devices.filter (·.zone == some zone))))
      fun zoned => zoned.flatMap fun placed => placed.map (·.node) :=
    .mapM fun _ _ => (hdevices _ _).inCluster
  refine Lays.map hzones fun l' zoned ⟨order', hzoned⟩ => ⟨order ++ order', ?_⟩
  change (l ++ l').Woven (order ++ order') ((free ++ zoned.flatten).map (·.node))
  rw [List.map_append, List.map_flatten]
  exact hfree.append hzoned

theorem weaves_intent {needs : List String} (note : Declaration) (devices : List Device) :
    Weaves needs (drawIntent note devices) fun _ => [] := by
  refine Lays.bind (Weaves.declare note) fun l noteId ⟨order, hnote⟩ => ?_
  refine Lays.bind (weaves_zoned devices) fun l' placed ⟨order', hplaced⟩ => ?_
  have hroots : (l ++ l').Woven (order ++ order') (noteId :: (placed.map (·.node)).take 1) :=
    (hnote.append hplaced).forget (((List.take_sublist 1 _)).cons_cons noteId)
  refine (lays_aboveFirst ?_ fun p hp => ?_).map fun l'' _ hl'' => ⟨order ++ order', ?_⟩
  · have hmem : noteId ∈ l.ids := hnote.mem_ids (by simp)
    simp [hmem]
  · simp [hplaced.mem_ids (List.mem_map_of_mem hp)]
  · rw [hl'', ← Layer.append_assoc]
    exact hroots.chain.forget (List.nil_sublist _)

theorem weaves_stack {needs : List String} (d : Device) (options : RenderOptions) :
    Weaves needs (d.drawStack options) fun _ => [] := by
  refine Weaves.inCluster (Lays.bind (Weaves.declare d.anchorDeclaration)
    fun l anchor ⟨order, hanchor⟩ => ?_)
  refine lays_orElse (weaves_ports d) ⟨[], .empty⟩ fun l' ports ⟨order', hports⟩ => ?_
  have hall := hanchor.append hports
  refine (lays_orderChain fun id hid => ?_).map fun l'' _ hl'' => ⟨order ++ order', ?_⟩
  · have hmem := Layer.mem_ids_append.1 (hall.mem_ids hid)
    simp only [List.mem_append]
    tauto
  · rw [hl'', ← Layer.append_assoc]
    exact hall.chain.forget (List.nil_sublist _)

/-- The frame of a server's ports, and the edge that puts it below the anchor. -/
theorem lays_portFrame {needs : List String} (server : Device) {anchor : String}
    (hanchor : anchor ∈ needs) :
    Lays needs (server.drawPortFrame anchor) fun l ports =>
      ∃ frame order, Layer.Woven frame order ((ports.map Prod.snd).take 1) ∧
        l = frame ++ .ofOrdering (chain (anchor :: (ports.map Prod.snd).take 1)) := by
  have hframe : Lays needs
      (inCluster (server.id ++ "_ports") (Style.cluster (some "Ports")) do
        let ports ← server.drawPorts
        orderChain (ports.map Prod.snd)
        return ports)
      fun l ports => (∀ port ∈ ports, port.2 ∈ l.ids) ∧
        ∃ order, l.Woven order ((ports.map Prod.snd).take 1) := by
    refine Lays.inCluster (Lays.bind (weaves_ports server) fun l ports ⟨order, hports⟩ => ?_)
    have hids : ∀ id ∈ ports.map Prod.snd, id ∈ l.ids := fun id hid => hports.mem_ids hid
    refine (lays_orderChain fun id hid => List.mem_append_left _ (hids id hid)).map
      fun l' _ hl' id => ?_
    have hcluster := (hports.chain.cluster id (Style.cluster (some "Ports")))
    rw [← hl'] at hcluster
    refine ⟨fun port hport => ?_, order, hcluster⟩
    have hport := hids _ (List.mem_map_of_mem hport)
    exact hcluster.ids.mem_iff.1 (hports.ids.mem_iff.2 hport)
  refine hframe.bind fun l ports ⟨hids, order, hl⟩ => ?_
  refine (lays_aboveFirst ?_ fun port hport => ?_).map fun l' _ hl' => ⟨l, order, hl, by rw [hl']⟩
  · exact List.mem_append_right _ hanchor
  · exact List.mem_append_left _ (hids port hport)

theorem weaves_server {needs : List String} (server : Device) (options : RenderOptions) :
    Weaves needs (server.drawServer options) fun placed => [placed.node] := by
  refine Weaves.inCluster (Lays.bind (Weaves.declare server.serverDeclaration)
    fun l anchor ⟨order, hanchor⟩ => ?_)
  have hmem : anchor ∈ l.ids ++ needs := List.mem_append_left _ (hanchor.mem_ids (by simp))
  refine lays_orElse (lays_portFrame server hmem) ⟨.empty, [], .empty, rfl⟩
    fun l' ports ⟨frame, order', hframe, hl'⟩ => .pure ⟨order ++ order', ?_⟩
  rw [Layer.append_empty, hl', ← Layer.append_assoc]
  exact (hanchor.append hframe).chain

theorem weaves_servers {needs : List String} (servers peers : List Device)
    (options : RenderOptions) :
    Weaves needs (drawServers servers peers options) fun _ => [] := by
  have hservers : Weaves needs (servers.mapM fun s => s.drawServer options) fun placed =>
      placed.map (·.node) := by
    simp only [List.map_eq_flatMap]
    exact .mapM fun s _ => weaves_server s options
  refine Lays.bind hservers fun l placed ⟨order, hplaced⟩ => ?_
  refine (lays_orderChain fun id hid => List.mem_append_left _ (hplaced.mem_ids hid)).bind
    fun l' _ hl' => ?_
  have hpeers : Weaves (l'.ids ++ (l.ids ++ needs)) (peers.mapM Device.drawPeer) fun around =>
      around.map (·.node) := weaves_entities Device.peerDeclaration Device.id peers
  refine Lays.map hpeers fun l'' around ⟨order', hpeers⟩ => ⟨order ++ order', ?_⟩
  rw [hl', ← Layer.append_assoc]
  exact (hplaced.chain.append hpeers).forget (List.nil_sublist _)

theorem DrawnRack.IsLaidOut.woven {r : DrawnRack} {entity : EntityType} {includePorts : Bool}
    (h : r.IsLaidOut entity includePorts) :
    (Layer.ofCluster r.cluster).Woven r.placement.ids [r.placement.anchor] := by
  obtain ⟨rack, placement, id, attrs, nodes, clusters, ordering⟩ := r
  obtain rfl : clusters = [] := h.inner
  have hnodes : (⟨nodes, [], []⟩ : Layer).Woven placement.ids placement.ids :=
    .of_declares ⟨h.ids, h.declared, rfl, rfl⟩
  have hcluster := hnodes.chain.cluster id attrs
  have hordering : ordering = chain placement.ids := h.ordering.trans (congrArg chain h.ids)
  subst hordering
  simpa [Layer.ofOrdering, RackPlacement.ids] using hcluster

theorem weaves_racks {needs : List String} (site : Option Site) (racks : List Rack)
    (entity : EntityType) (options : RenderOptions) :
    Weaves needs (drawFramed site racks entity options) fun _ => [] := by
  have hracks : Weaves needs (drawRacks racks entity options) fun _ => [] := by
    have hrack : ∀ rack ∈ racks, Weaves needs (rack.draw entity options) fun r => [r.anchor] := by
      refine fun rack _ => (lays_rack rack entity options).mono fun l placement h => ?_
      obtain ⟨cluster, rfl, hcluster⟩ := h
      exact ⟨_, hcluster.woven⟩
    exact (Weaves.mapM hrack).mono fun _ _ ⟨order, hl⟩ => ⟨order, hl.forget (List.nil_sublist _)⟩
  cases site with
  | none => exact hracks
  | some s => exact hracks.inCluster

-- ════════════════════════════════════════════════════════════════════════
-- Scenes
-- ════════════════════════════════════════════════════════════════════════

/-- A program that draws a woven layer on a canvas without nodes and clusters. -/
def Plants {α : Type} (m : Draw α) : Prop :=
  ∀ c : Canvas, c.scopes = [] → c.layer = .empty →
    (m c).2.scopes = [] ∧ ∃ order, (m c).2.layer.Woven order []

theorem Weaves.plants {α : Type} {m : Draw α} {roots : α → List String}
    (h : Weaves [] m roots) : Plants m := by
  intro c hscopes hlayer
  obtain ⟨hbare, l, hall, order, hl⟩ := Lays.at_top h hscopes
  refine ⟨hbare, order, ?_⟩
  rw [hall, hlayer, Layer.empty_append]
  exact hl.forget (List.nil_sublist _)

/-- What comes afterwards and leaves the layer as it is. -/
theorem Plants.bind {α β : Type} {m : Draw α} {f : α → Draw β} (h : Plants m)
    (hf : ∀ a c, (f a c).2.scopes = c.scopes ∧ (f a c).2.layer = c.layer) : Plants (m >>= f) := by
  intro c hscopes hlayer
  obtain ⟨hm, order, hwoven⟩ := h c hscopes hlayer
  rw [bind_apply, (hf _ _).1, (hf _ _).2]
  exact ⟨hm, order, hwoven⟩

theorem plants_rackDiagram (site : Option Site) (racks : List Rack) (entity : EntityType)
    (options : RenderOptions) : Plants (drawRackDiagram site racks entity options) := by
  rw [drawRackDiagram_eq]
  refine (weaves_racks site racks entity options).plants.bind fun placements c => ?_
  rw [bind_apply, sideBySide]
  split_ifs <;> exact ⟨rfl, rfl⟩

/-- Every scene draws its nodes with ordering edges that lead forward. -/
theorem plants_of_scene {kind : Kind} {doc : Mapping} {options : RenderOptions} {scene : Scene}
    (h : (Plan.ofKind kind doc options).scene = .ok scene) : Plants scene.nodes := by
  have hnothing : Plants (pure [] : Draw (List Placement)) :=
    fun c hscopes hlayer => ⟨hscopes, [], hlayer ▸ .empty⟩
  cases Stages.of_scene h with
  | @siteTopology sites => exact (weaves_entities _ _ sites).plants
  | @siteEquipment racks site => exact plants_rackDiagram site racks _ options
  | @rackServers racks => exact plants_rackDiagram none racks _ options
  | @serverDetails _ servers peers => exact (weaves_servers servers peers options).plants
  | @topology _ devices => exact (weaves_zoned devices).plants
  | @device _ device =>
    have hplace : Weaves [] (do return [← device.drawStack options]) fun _ => [] :=
      (weaves_stack device options).map fun _ => List.Sublist.refl _
    exact hplace.plants
  | links => exact (weaves_entities _ _ _).plants
  | @intent _ devices => exact (weaves_intent _ devices).plants
  | nullTopology | nullDevice | nullIntent => exact hnothing
  | unknown => exact fun c hscopes hlayer => ⟨hscopes, [], hlayer ▸ .empty⟩

-- ════════════════════════════════════════════════════════════════════════
-- Clusters and what they mention
-- ════════════════════════════════════════════════════════════════════════

namespace Dot.Cluster

theorem allNodesOf_eq_flatMap (cs : List Cluster) : allNodesOf cs = cs.flatMap allNodes :=
  Gathering.nodes.clusters_eq_flatMap cs

/-- The nodes of a cluster are among those of the clusters around it. -/
theorem Inside.sublist {c : Cluster} {cs : List Cluster} (h : c.Inside cs) :
    c.allNodes.Sublist (allNodesOf cs) := by
  induction h with
  | here hc =>
    rw [allNodesOf_eq_flatMap]
    exact List.sublist_flatten_of_mem (List.mem_map_of_mem hc)
  | @deeper cs d hd _ ih =>
    have houter : d.allNodes.Sublist (allNodesOf cs) := by
      rw [allNodesOf_eq_flatMap]
      exact List.sublist_flatten_of_mem (List.mem_map_of_mem hd)
    refine (ih.trans ?_).trans houter
    rw [allNodes_eq]
    exact List.sublist_append_right ..

/-- The identifiers in the block of a cluster: its nodes, and the ends of its ordering edges. -/
def mentions (c : Cluster) : List String :=
  c.allNodes.map (·.id) ++ c.allOrdering.flatMap fun e => [e.source, e.target]

/-- Every ordering edge of a tree belongs to one of its clusters. -/
theorem exists_inside {e : Edge} : ∀ cs : List Cluster, e ∈ allOrderingOf cs →
    ∃ c : Cluster, c.Inside cs ∧ e ∈ c.ordering
  | [], h => absurd h List.not_mem_nil
  | ⟨id, attrs, nodes, clusters, ordering⟩ :: rest, h => by
    rw [allOrderingOf, allOrdering, List.mem_append, List.mem_append] at h
    rcases h with (hown | hinner) | hrest
    · exact ⟨_, .here List.mem_cons_self, hown⟩
    · obtain ⟨c, hc, he⟩ := exists_inside clusters hinner
      exact ⟨c, .deeper List.mem_cons_self hc, he⟩
    · obtain ⟨c, hc, he⟩ := exists_inside rest hrest
      cases hc with
      | here hc => exact ⟨c, .here (List.mem_cons_of_mem _ hc), he⟩
      | deeper hd hc => exact ⟨c, .deeper (List.mem_cons_of_mem _ hd) hc, he⟩

/-- If no ordering edge leaves its cluster, the block of a cluster mentions its own nodes only. -/
theorem mentions_subset {c : Cluster} (h : ∀ d : Cluster, d.Inside [c] → d.KeepsOrdering) :
    c.mentions ⊆ c.allNodes.map (·.id) := by
  refine List.append_subset_of_subset_of_subset (List.Subset.refl _) fun id hid => ?_
  obtain ⟨e, he, hid⟩ := List.mem_flatMap.1 hid
  have hself : allOrderingOf [c] = c.allOrdering := by simp [allOrderingOf]
  have hnodes : allNodesOf [c] = c.allNodes := by simp [allNodesOf]
  obtain ⟨d, hd, he⟩ := exists_inside [c] (hself ▸ he)
  have hends := h d hd e he
  have hsub : d.allNodes.map (·.id) ⊆ c.allNodes.map (·.id) :=
    List.map_subset _ (hnodes ▸ hd.sublist.subset)
  rcases List.mem_cons.1 hid with rfl | hid
  · exact hsub hends.1
  · exact List.mem_singleton.1 hid ▸ hsub hends.2

/-- Clusters next to each other whose blocks have no identifier in common. -/
def Apart (cs : List Cluster) : Prop :=
  cs.Pairwise fun c d => List.Disjoint c.mentions d.mentions

theorem apart_of_nodup {cs : List Cluster} (h : ((allNodesOf cs).map (·.id)).Nodup)
    (hkept : ∀ c : Cluster, c.Inside cs → c.KeepsOrdering) : Apart cs := by
  have hown : ∀ c ∈ cs, c.mentions ⊆ c.allNodes.map (·.id) := by
    refine fun c hc => mentions_subset fun d hd => ?_
    rcases hd.single_cases with rfl | hd
    · exact hkept d (.here hc)
    · exact hkept d (.deeper hc hd)
  rw [allNodesOf_eq_flatMap, List.map_flatMap, List.nodup_flatMap] at h
  refine h.2.imp_of_mem fun {c d} hc hd hdisjoint => ?_
  exact fun id hidc hidd => hdisjoint (hown c hc hidc) (hown d hd hidd)

end Dot.Cluster

-- ════════════════════════════════════════════════════════════════════════
-- Results
-- ════════════════════════════════════════════════════════════════════════

/-- Comments leave clusters, nodes and ordering edges as they are. -/
theorem layer_comments (comments : List String) (c : Canvas) :
    (comments.forM comment c).2.scopes = c.scopes ∧
      (comments.forM comment c).2.layer = c.layer := by
  induction comments generalizing c with
  | nil => exact ⟨rfl, rfl⟩
  | cons text comments ih => exact ih (comment text c).2

/-- The nodes of a result are drawn as a woven layer. -/
theorem Course.exists_woven {m : Mapping} {options : RenderOptions} {g : Generated}
    {w : Groundwork} {es : List Event} {l : Log} (h : Course m options g w es l) :
    w.canvas.scopes = [] ∧ ∃ order, w.canvas.layer.Woven order [] := by
  obtain ⟨hscene, hdrawn⟩ := Plan.groundwork_eq_ok h.groundwork
  obtain ⟨hscopes, hlayer⟩ := layer_comments (Plan.ofKind g.kind m options).comments .blank
  have hplants := plants_of_scene hscene _ hscopes hlayer
  rwa [hdrawn] at hplants

/-- One node is put before the other. -/
def Dot.Graph.Precedes (g : Graph) (a b : String) : Prop :=
  ∃ e ∈ g.allOrdering, e.source = a ∧ e.target = b

/-- Ordering edges without a cycle, at most one of them to each node, and none that leaves its
    cluster; nor does the block of a cluster mention a node of another one beside it. -/
structure Dot.Graph.OrderingForest (g : Graph) : Prop where
  acyclic : ∀ id, ¬ Relation.TransGen g.Precedes id id
  predecessor : (g.allOrdering.map (·.target)).Nodup
  kept : ∀ c : Cluster, c.Inside g.clusters → c.KeepsOrdering
  apart : Cluster.Apart g.clusters ∧ ∀ c : Cluster, c.Inside g.clusters → Cluster.Apart c.clusters

theorem Layer.Woven.orderingForest {g : Graph} {order : List String}
    (h : (⟨g.nodes, g.clusters, g.ordering⟩ : Layer).Woven order [])
    (hnodup : g.declaredIds.Nodup) : g.OrderingForest := by
  have horder : order.Nodup := h.ids.nodup_iff.2 hnodup
  have hclusters : ((Cluster.allNodesOf g.clusters).map (·.id)).Nodup :=
    hnodup.sublist ((List.sublist_append_right g.nodes _).map _)
  refine ⟨fun id hcycle => ?_, ?_, h.kept, ?_, fun c hc => ?_⟩
  · -- along a path of ordering edges, the positions in the order grow
    have hgrows : ∀ a b, Relation.TransGen g.Precedes a b → order.idxOf a < order.idxOf b := by
      intro a b hpath
      induction hpath with
      | single hstep =>
        obtain ⟨e, he, rfl, rfl⟩ := hstep
        exact idxOf_lt_of_sublist horder (h.forward e he)
      | tail _ hstep ih =>
        obtain ⟨e, he, rfl, rfl⟩ := hstep
        exact ih.trans (idxOf_lt_of_sublist horder (h.forward e he))
    exact Nat.lt_irrefl _ (hgrows id id hcycle)
  · obtain ⟨kept, hperm, hsub⟩ := h.once
    rw [List.append_nil] at hperm
    exact hperm.nodup_iff.1 (horder.sublist hsub)
  · exact Cluster.apart_of_nodup hclusters h.kept
  · refine Cluster.apart_of_nodup (hclusters.sublist (.map _ (.trans ?_ hc.sublist))) fun d hd => ?_
    · rw [Cluster.allNodes_eq]
      exact List.sublist_append_right ..
    · exact h.kept d (hd.within hc)

/-- **Layout hints form a forest.** Whatever a document says, the ordering edges of its result have
    no cycle, no node has two predecessors, and every cluster keeps its ordering edges to its own
    nodes and to those of clusters within it. -/
theorem orderingForest_of_generate {doc : Value} {options : RenderOptions} {g : Generated}
    (h : generate doc options = .ok g) : g.diagram.graph.OrderingForest := by
  obtain ⟨m, w, es, l, -, hcourse⟩ := exists_course h
  obtain ⟨hscopes, order, hwoven⟩ := hcourse.exists_woven
  rw [hcourse.diagram_eq hscopes]
  exact Layer.Woven.orderingForest hwoven (hcourse.nodup_ids hscopes)

/-- Two servers with one id and a port of one name. -/
def twins : Mapping :=
  [("servers", .list [
    .mapping [("id", .text "a"), ("ports", .list [.text "p", .text "q"])],
    .mapping [("id", .text "a"), ("ports", .list [.text "p"])]])]

theorem orderingForest_twins : ∃ g, generate (.mapping twins) .standard = .ok g ∧
    g.kind = .serverDetails ∧
    g.diagram.graph.allOrdering.map (fun e => (e.source, e.target)) =
      [("a", "a_2"), ("a", "\"a:p\""), ("\"a:p\"", "\"a:q\""), ("a_2", "\"a:p_2\"")] ∧
    g.diagram.graph.OrderingForest := by
  have hresult : ((generate (.mapping twins) .standard).toOption.map fun g =>
      (g.kind, g.diagram.graph.allOrdering.map fun e => (e.source, e.target))) =
      some (.serverDetails,
        [("a", "a_2"), ("a", "\"a:p\""), ("\"a:p\"", "\"a:q\""), ("a_2", "\"a:p_2\"")]) := by
    decide +kernel
  obtain ⟨g, hg, hshown⟩ := exists_of_toOption_map hresult
  simp only [Prod.mk.injEq] at hshown
  exact ⟨g, hg, hshown.1, hshown.2, orderingForest_of_generate hg⟩

end InfraDiagram

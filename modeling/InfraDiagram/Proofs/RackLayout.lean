import InfraDiagram.Proofs.Layers
import InfraDiagram.Proofs.Records
import Mathlib.Data.List.Flatten

/-!
# The layout of racks

Every rack of a document is one cluster. It holds the rack's anchor, its devices from top to bottom
and then their ports, all chained in this order, and each port hangs on its own device by one line
that is drawn before any connection.

## Main definitions

- `Device.StandsBefore`, `Rack.Arranged` — the order of devices within a rack
- `Rack.declarations` — what the cluster of a rack declares, in order
- `DrawnRack.IsLaidOut` — the cluster of a rack
- `RacksLaidOut` — a result with all racks of a document

## Main statements

- `Rack.arranged_displayOrder` — devices from top to bottom, in document order among equals
- `lays_rack` — what drawing a rack appends
- `racksLaidOut_of_generate` — the racks of every document that is drawn
- `not_singleLine_selfCabled` — a port with two lines from its own device
-/

namespace InfraDiagram

open Dot

-- ════════════════════════════════════════════════════════════════════════
-- Devices from top to bottom
-- ════════════════════════════════════════════════════════════════════════

/-- A positioned device stands behind no unpositioned one and behind none that is mounted lower.
    Devices at the same unit, or without any, stand in document order. -/
def Device.StandsBefore (a b : Device) : Prop :=
  (b.isPositioned = true → a.isPositioned = true ∧ b.rackUnit ≤ a.rackUnit) ∧
    (a.rackUnit = b.rackUnit → a.order < b.order)

/-- The order of each device is its position in the list. -/
def InOrder (devices : List Device) : Prop :=
  devices.map (·.order) = List.range devices.length

/-- The devices of a rack, each of them once, in the order in which they are shown. -/
structure Rack.Arranged (rack : Rack) (shown : List Device) : Prop where
  perm : shown.Perm rack.devices
  positions : InOrder rack.devices
  sorted : shown.Pairwise Device.StandsBefore

theorem Rack.standsAbove_iff {a b : Device} : standsAbove a b = true ↔
    (a.isPositioned = true ∧ b.isPositioned = false) ∨
      (a.isPositioned = b.isPositioned ∧
        (b.rackUnit < a.rackUnit ∨ (a.rackUnit = b.rackUnit ∧ a.order ≤ b.order))) := by
  unfold standsAbove
  by_cases hunit : a.rackUnit = b.rackUnit
  · cases a.isPositioned <;> cases b.isPositioned <;> simp [hunit]
  · cases a.isPositioned <;> cases b.isPositioned <;> simp [hunit]

theorem Rack.standsAbove_trans (a b c : Device) (hab : standsAbove a b = true)
    (hbc : standsAbove b c = true) : standsAbove a c = true := by
  rw [standsAbove_iff] at *
  rcases hab with ⟨ha, hb⟩ | ⟨hab, hunits⟩ <;> rcases hbc with ⟨hb', hc⟩ | ⟨hbc, hunits'⟩
  · rw [hb] at hb'
    cases hb'
  · exact .inl ⟨ha, by rw [← hbc, hb]⟩
  · exact .inl ⟨by rw [hab, hb'], hc⟩
  · exact .inr ⟨by rw [hab, hbc], by omega⟩

theorem Rack.standsAbove_total (a b : Device) : (standsAbove a b || standsAbove b a) = true := by
  rw [Bool.or_eq_true, standsAbove_iff, standsAbove_iff]
  have hunits : b.rackUnit < a.rackUnit ∨ a.rackUnit < b.rackUnit ∨ a.rackUnit = b.rackUnit := by
    omega
  cases a.isPositioned <;> cases b.isPositioned
  · simp
    omega
  · simp
  · simp
  · simp
    omega

/-- Different places in the document leave no ties. -/
theorem Rack.standsBefore {a b : Device} (h : standsAbove a b = true) (hne : a.order ≠ b.order) :
    a.StandsBefore b := by
  have hsame : a.rackUnit = b.rackUnit → a.isPositioned = b.isPositioned := by
    intro hunit
    rw [Device.isPositioned, Device.isPositioned, hunit]
  rcases standsAbove_iff.1 h with ⟨ha, hb⟩ | ⟨hpositioned, hunits⟩
  · constructor
    · intro hb'
      rw [hb] at hb'
      cases hb'
    · intro hunit
      rw [hsame hunit, hb] at ha
      cases ha
  · constructor
    · intro hb
      exact ⟨hpositioned.trans hb, by omega⟩
    · intro hunit
      omega

/-- Devices that are shown from top to bottom, in document order among equals. -/
theorem Rack.arranged_displayOrder {rack : Rack} (h : InOrder rack.devices) :
    rack.Arranged (displayOrder rack.devices) where
  perm := List.mergeSort_perm ..
  positions := h
  sorted := by
    have hperm : (displayOrder rack.devices).Perm rack.devices := List.mergeSort_perm ..
    have habove : (displayOrder rack.devices).Pairwise fun a b => standsAbove a b = true :=
      List.pairwise_mergeSort standsAbove_trans standsAbove_total rack.devices
    have hdistinct : (displayOrder rack.devices).Pairwise fun a b => a.order ≠ b.order := by
      rw [← List.pairwise_map (f := Device.order)]
      apply (hperm.map _).nodup_iff.2
      rw [h]
      exact List.nodup_range
    exact habove.imp₂ (fun a b hab hne => standsBefore hab hne) hdistinct

-- ════════════════════════════════════════════════════════════════════════
-- Positions in the document
-- ════════════════════════════════════════════════════════════════════════

/-- What every item preserves holds behind all of them. -/
theorem foldlM_preserves {ε α β : Type} {f : β → α → Except ε β} {P : β → Prop}
    (hstep : ∀ b x b', P b → f b x = .ok b' → P b') {xs : List α} {b b' : β} (hb : P b)
    (h : xs.foldlM f b = .ok b') : P b' := by
  induction xs generalizing b with
  | nil =>
    cases h
    exact hb
  | cons x xs ih =>
    rw [List.foldlM_cons] at h
    obtain ⟨b₁, hb₁, h⟩ := exists_of_bind_eq_ok h
    exact ih (hstep b x b₁ hb hb₁) h

theorem Device.order_of_ofValue {v : Value} {parent : String} {index : Nat} {path : Path}
    {defaultType : String} {d : Device} (h : ofValue v parent index path defaultType = .ok d) :
    d.order = index := by
  unfold ofValue at h
  split at h
  · obtain ⟨ports, -, h⟩ := exists_of_bind_eq_ok h
    cases h
    rfl
  · cases h
    rfl
  · cases h

/-- Devices that are read from a list stand in its order, behind those that were there already. -/
theorem Device.order_of_items {items : List Value} {parent : String} {path : Path}
    {defaultType : String} (already : Nat) {devices : List Device}
    (h : (items.zipIdx.mapM fun (v, i) =>
      ofValue v parent (already + i) (path.index i) defaultType) = .ok devices) :
    devices.map (·.order) = List.range' already devices.length := by
  have horder : devices.map (·.order) = items.zipIdx.map fun x => already + x.2 :=
    map_of_mapM (fun x d hd => order_of_ofValue hd) h
  have hlength := congrArg List.length horder
  rw [List.length_map, List.length_map, List.length_zipIdx] at hlength
  have hpositions : (items.zipIdx.map fun x => already + x.2) =
      (items.zipIdx.map Prod.snd).map (already + ·) := by
    rw [List.map_map]
    rfl
  rw [horder, hlength, hpositions, List.zipIdx_map_snd, List.map_add_range', Nat.add_zero]

theorem Device.inOrder_of_listIn {m : Mapping} {keys : List String} {parent : String}
    {path : Path} {defaultType : String} {devices : List Device}
    (h : listIn m keys parent path defaultType = .ok devices) : InOrder devices := by
  obtain ⟨⟨items, listPath⟩, -, h⟩ := exists_of_bind_eq_ok h
  have horder := order_of_items 0 (by simpa using h)
  rwa [← List.range_eq_range'] at horder

namespace Rack

theorem inOrder_of_ofValue {v : Value} {index : Nat} {path : Path} {rack : Rack}
    (h : ofValue v index path = .ok rack) : InOrder rack.devices := by
  unfold ofValue at h
  split at h
  · cases h
    rfl
  · obtain ⟨devices, hdevices, h⟩ := exists_of_bind_eq_ok h
    cases h
    exact Device.inOrder_of_listIn hdevices
  · cases h

theorem inOrder_of_ofDocument {doc : Mapping} {racks : List Rack}
    (h : ofDocument doc = .ok racks) : ∀ rack ∈ racks, InOrder rack.devices := by
  obtain ⟨entities, -, h⟩ := exists_of_bind_eq_ok h
  exact forall_of_mapM (fun x rack hrack => inOrder_of_ofValue hrack) h

/-- Servers that are mounted behind the devices of a rack continue their order. -/
theorem inOrder_mount {id label : String} {devices : List Device} {racks : List Rack}
    (hracks : ∀ rack ∈ racks, InOrder rack.devices)
    (h : devices.map (·.order) =
      List.range' ((devicesOf racks id).getD []).length devices.length) :
    ∀ rack ∈ mount id label devices racks, InOrder rack.devices := by
  induction racks with
  | nil =>
    rw [mount, List.forall_mem_singleton]
    exact h.trans List.range_eq_range'.symm
  | cons r rest ih =>
    obtain ⟨hr, hrest⟩ := List.forall_mem_cons.1 hracks
    rw [mount]
    by_cases hid : r.id = id
    · have hfound : devicesOf (r :: rest) id = some r.devices := by
        simp [devicesOf, hid]
      rw [hfound, Option.getD_some] at h
      rw [if_pos hid]
      refine List.forall_mem_cons.2 ⟨?_, hrest⟩
      change (r.devices ++ devices).map _ = List.range (r.devices ++ devices).length
      rw [List.map_append, hr, h, List.length_append, List.range_eq_range', List.range_eq_range',
        ← List.range'_append_1, Nat.zero_add]
    · have hother : devicesOf (r :: rest) id = devicesOf rest id := by
        simp [devicesOf, hid]
      rw [if_neg hid]
      exact List.forall_mem_cons.2 ⟨hr, ih hrest (hother ▸ h)⟩

theorem inOrder_of_ofServerDocument {doc : Mapping} {racks : List Rack}
    (h : ofServerDocument doc = .ok racks) : ∀ rack ∈ racks, InOrder rack.devices := by
  obtain ⟨listed, hlisted, h⟩ := exists_of_bind_eq_ok h
  obtain ⟨entries, -, h⟩ := exists_of_bind_eq_ok h
  cases entries with
  | none =>
    cases h
    exact inOrder_of_ofDocument hlisted
  | some entries =>
    refine foldlM_preserves (P := fun racks => ∀ rack ∈ racks, InOrder rack.devices)
      (fun racks entry racks' hracks hentry => ?_) (inOrder_of_ofDocument hlisted) h
    obtain ⟨⟨items, label⟩, -, hentry⟩ := exists_of_bind_eq_ok hentry
    obtain ⟨devices, hdevices, hentry⟩ := exists_of_bind_eq_ok hentry
    cases hentry
    exact inOrder_mount hracks (Device.order_of_items _ hdevices)

end Rack

-- ════════════════════════════════════════════════════════════════════════
-- What a rack declares
-- ════════════════════════════════════════════════════════════════════════

/-- The ports of a device that are drawn as nodes. -/
def Device.shownPorts (d : Device) (includePorts : Bool) : List Port :=
  if includePorts then d.ports else []

/-- The declarations of a rack's cluster: its anchor, its devices from top to bottom, and the ports
    of each of them in turn. -/
def Rack.declarations (rack : Rack) (entity : EntityType) (includePorts : Bool) :
    List Declaration :=
  rack.anchor ::
    ((displayOrder rack.devices).map (fun d => d.declaration entity true) ++
      (displayOrder rack.devices).flatMap fun d =>
        (d.shownPorts includePorts).map fun p => p.declaration d.id)

/-- The nodes of a rack in the order of its declarations. -/
def RackPlacement.ids (r : RackPlacement) : List String :=
  r.anchor :: (r.devices.map (·.node) ++ r.devices.flatMap fun p => p.ports.map Prod.snd)

/-- A rack of a document with its cluster and the places of its devices. -/
structure DrawnRack where
  rack : Rack
  placement : RackPlacement
  cluster : Cluster

/-- The cluster is that of the rack. -/
structure DrawnRack.IsLaidOut (r : DrawnRack) (entity : EntityType) (includePorts : Bool) :
    Prop where
  attrs : r.cluster.attrs = Style.cluster none
  inner : r.cluster.clusters = []
  declared : r.cluster.nodes.map (fun n => (n.key, n.attrs)) =
    (r.rack.declarations entity includePorts).map fun d => (d.key, Canvas.nodeAttrs d)
  ids : r.cluster.nodes.map (·.id) = r.placement.ids
  places : r.placement.devices.map (fun p => (p.key, p.ports.map Prod.fst)) =
    (Rack.displayOrder r.rack.devices).map fun d =>
      (d.id, (d.shownPorts includePorts).map (·.name))
  ordering : r.cluster.ordering = chain (r.cluster.nodes.map (·.id))

/-- The layer consists of nodes for the given declarations, with the given identifiers. -/
structure Layer.Declares (l : Layer) (ds : List Declaration) (ids : List String) : Prop where
  ids : l.nodes.map (·.id) = ids
  shown : l.nodes.map (fun n => (n.key, n.attrs)) = ds.map fun d => (d.key, Canvas.nodeAttrs d)
  clusters : l.clusters = []
  ordering : l.ordering = []

namespace Layer.Declares

variable {l l' : Layer} {ds ds' : List Declaration} {ids ids' : List String}

theorem nil : Layer.empty.Declares [] [] :=
  ⟨rfl, rfl, rfl, rfl⟩

theorem single (d : Declaration) (id : String) :
    (Layer.ofNode ⟨id, d.key, Canvas.nodeAttrs d⟩).Declares [d] [id] :=
  ⟨rfl, rfl, rfl, rfl⟩

theorem append (h : l.Declares ds ids) (h' : l'.Declares ds' ids') :
    (l ++ l').Declares (ds ++ ds') (ids ++ ids') where
  ids := by rw [Layer.nodes_append, List.map_append, h.ids, h'.ids]
  shown := by rw [Layer.nodes_append, List.map_append, h.shown, h'.shown, List.map_append]
  clusters := by rw [Layer.clusters_append, h.clusters, h'.clusters]; rfl
  ordering := by rw [Layer.ordering_append, h.ordering, h'.ordering]; rfl

theorem length_eq (h : l.Declares ds ids) : ids.length = ds.length := by
  have hshown := congrArg List.length h.shown
  rw [← h.ids]
  simpa using hshown

theorem mem_ids (h : l.Declares ds ids) {id : String} (hid : id ∈ ids) : id ∈ l.ids := by
  rw [← h.ids] at hid
  rw [Layer.ids, List.map_append]
  exact List.mem_append_left _ hid

/-- Ordering edges come on top of the nodes. -/
theorem append_ofOrdering (h : l.Declares ds ids) (es : List Edge) :
    l ++ .ofOrdering es = ⟨l.nodes, [], es⟩ := by
  obtain ⟨nodes, clusters, ordering⟩ := l
  obtain rfl : clusters = [] := h.clusters
  obtain rfl : ordering = [] := h.ordering
  change Layer.mk (nodes ++ []) _ _ = _
  rw [List.append_nil]
  rfl

/-- Items that declare nodes each declare all of these together. -/
theorem of_stacks {α β : Type} {R : α → Layer → β → Prop} {f : α → List Declaration}
    {g : β → List String} {xs : List α} {ys : List β} (h : Stacks R xs l ys)
    (hR : ∀ x l y, R x l y → l.Declares (f x) (g y)) :
    l.Declares (xs.flatMap f) (ys.flatMap g) := by
  induction h with
  | nil => exact nil
  | cons h _ ih => exact (hR _ _ _ h).append ih

theorem of_stacks_singles {α β : Type} {R : α → Layer → β → Prop} {f : α → Declaration}
    {g : β → String} {xs : List α} {ys : List β} (h : Stacks R xs l ys)
    (hR : ∀ x l y, R x l y → l.Declares [f x] [g y]) : l.Declares (xs.map f) (ys.map g) := by
  rw [List.map_eq_flatMap, List.map_eq_flatMap]
  exact of_stacks h hR

end Layer.Declares

/-- Results that are read off the items one by one. -/
theorem Stacks.map_eq {α β γ : Type} {R : α → Layer → β → Prop} {f : α → γ} {g : β → γ}
    {xs : List α} {l : Layer} {ys : List β} (h : Stacks R xs l ys)
    (hR : ∀ x l y, R x l y → g y = f x) : ys.map g = xs.map f := by
  induction h with
  | nil => rfl
  | cons h _ ih => rw [List.map_cons, List.map_cons, hR _ _ _ h, ih]

theorem Device.lays_linkedPorts {needs : List String} (d : Device) (node : String) :
    Lays needs (d.drawLinkedPorts node) fun l ports =>
      ports.map Prod.fst = d.ports.map (·.name) ∧
        l.Declares (d.ports.map fun p => p.declaration d.id) (ports.map Prod.snd) := by
  have hone : ∀ p ∈ d.ports, Lays needs
      (do
        let port ← p.draw d.id
        edge node port.2 Style.portLink
        return port)
      fun l port => port.1 = p.name ∧ l.Declares [p.declaration d.id] [port.2] := by
    intro p _
    have hdraw : Lays needs (p.draw d.id) fun l port =>
        port.1 = p.name ∧ l.Declares [p.declaration d.id] [port.2] :=
      (Lays.declare _).map fun l id hl => ⟨rfl, hl ▸ .single _ _⟩
    refine hdraw.bind fun l port hport => (Lays.edge _ _ _).map fun l' _ hl' => ?_
    rwa [hl', Layer.append_empty]
  refine (Lays.mapM hone).mono fun l ports h => ⟨?_, ?_⟩
  · exact h.map_eq fun p l port hport => hport.1
  · exact .of_stacks_singles h fun p l port hport => hport.2

/-- The place of a device, with a layer of its ports. -/
def PlacesAt (includePorts : Bool) (d : Device) (node : String) (l : Layer) (p : Placement) :
    Prop :=
  p.key = d.id ∧ p.node = node ∧
    p.ports.map Prod.fst = (d.shownPorts includePorts).map (·.name) ∧
    l.Declares ((d.shownPorts includePorts).map fun port => port.declaration d.id)
      (p.ports.map Prod.snd)

theorem Device.lays_placeAt {needs : List String} (d : Device) (node : String)
    (options : RenderOptions) :
    Lays needs (d.placeAt node options) (PlacesAt options.includePorts d node) := by
  unfold placeAt
  cases options.includePorts with
  | true => exact (d.lays_linkedPorts node).map fun l ports h => ⟨rfl, rfl, h.1, h.2⟩
  | false =>
    have hnone : Lays needs (pure []) fun l ports => PlacesAt false d node l ⟨d.id, node, ports⟩ :=
      .pure ⟨rfl, rfl, rfl, .nil⟩
    exact hnone.map fun l ports h => h

/-- Devices that were placed one after the other, each at its node. -/
theorem Stacks.placed {includePorts : Bool} {devices : List Device} {nodes : List String}
    {l : Layer} {placed : List Placement} (hlength : nodes.length = devices.length)
    (h : Stacks (fun x => PlacesAt includePorts x.1 x.2) (devices.zip nodes) l placed) :
    placed.map (·.node) = nodes ∧
      placed.map (fun p => (p.key, p.ports.map Prod.fst)) =
        devices.map (fun d => (d.id, (d.shownPorts includePorts).map (·.name))) ∧
      l.Declares (devices.flatMap fun d =>
          (d.shownPorts includePorts).map fun port => port.declaration d.id)
        (placed.flatMap fun p => p.ports.map Prod.snd) := by
  have hfst : (devices.zip nodes).map Prod.fst = devices := List.map_fst_zip hlength.ge
  have hsnd : (devices.zip nodes).map Prod.snd = nodes := List.map_snd_zip hlength.le
  refine ⟨(h.map_eq fun x l p hp => hp.2.1).trans hsnd, ?_, ?_⟩
  · rw [← hfst, List.map_map]
    exact h.map_eq fun x l p hp => Prod.ext hp.1 hp.2.2.1
  · rw [← hfst, List.flatMap_map]
    exact .of_stacks h fun x l p hp => hp.2.2.2

/-- Drawing a rack appends its cluster. -/
theorem lays_rack {needs : List String} (rack : Rack) (entity : EntityType)
    (options : RenderOptions) :
    Lays needs (rack.draw entity options) fun l placement => ∃ cluster, l = .ofCluster cluster ∧
      (DrawnRack.mk rack placement cluster).IsLaidOut entity options.includePorts := by
  refine Lays.inCluster ?_
  refine (Lays.declare rack.anchor).bind fun l anchor hl => ?_
  refine (Lays.mapM fun d _ => Lays.declare (d.declaration entity true)).bind
    fun l₁ nodes hnodes => ?_
  have hdevices : l₁.Declares
      ((Rack.displayOrder rack.devices).map fun d => d.declaration entity true) nodes := by
    have hmap := Layer.Declares.of_stacks_singles (f := fun d => d.declaration entity true)
      (g := id) hnodes fun d l node h => h ▸ .single _ _
    rwa [List.map_id] at hmap
  have hplaceAt : Lays (l₁.ids ++ (l.ids ++ needs))
      (((Rack.displayOrder rack.devices).zip nodes).mapM fun x => x.1.placeAt x.2 options)
      (Stacks (fun x => PlacesAt options.includePorts x.1 x.2)
        ((Rack.displayOrder rack.devices).zip nodes)) :=
    Lays.mapM fun x _ => x.1.lays_placeAt x.2 options
  refine hplaceAt.bind fun l₂ placed hplaced => ?_
  obtain ⟨hplacedNodes, hplaces, hports⟩ := hplaced.placed (by simpa using hdevices.length_eq)
  have hanchor : l.Declares [rack.anchor] [anchor] := hl ▸ .single _ _
  have hall := hanchor.append (hdevices.append hports)
  have hchain : ∀ id ∈ anchor :: (nodes ++ placed.flatMap fun p => p.ports.map Prod.snd),
      id ∈ l₂.ids ++ (l₁.ids ++ (l.ids ++ needs)) := by
    intro id hid
    have hmem := hall.mem_ids hid
    simp only [Layer.mem_ids_append] at hmem
    simp only [List.mem_append]
    tauto
  refine (lays_orderChain hchain).map fun l₃ _ hl₃ id => ?_
  rw [hl₃, ← Layer.append_assoc l₁, ← Layer.append_assoc, hall.append_ofOrdering]
  refine ⟨_, rfl, ?_⟩
  exact {
    attrs := rfl
    inner := rfl
    declared := hall.shown
    ids := by
      rw [RackPlacement.ids, hplacedNodes]
      exact hall.ids
    places := hplaces
    ordering := congrArg chain hall.ids.symm }

-- ════════════════════════════════════════════════════════════════════════
-- All racks of a diagram
-- ════════════════════════════════════════════════════════════════════════

/-- The racks of a diagram side by side. -/
structure AllLaidOut (racks : List Rack) (entity : EntityType) (includePorts : Bool)
    (drawn : List DrawnRack) : Prop where
  racks : drawn.map (·.rack) = racks
  each : ∀ r ∈ drawn, r.IsLaidOut entity includePorts

/-- The clusters of racks, in the cluster of their site if there is one. -/
def Framed (site : Option Site) (racks clusters : List Cluster) : Prop :=
  match site with
  | none => clusters = racks
  | some s => ∃ id, clusters = [⟨id, Style.cluster (some s.label), [], racks, []⟩]

theorem exists_drawn_of_stacks {racks : List Rack} {entity : EntityType} {includePorts : Bool}
    {l : Layer} {placements : List RackPlacement}
    (h : Stacks (fun rack l placement => ∃ cluster, l = .ofCluster cluster ∧
      (DrawnRack.mk rack placement cluster).IsLaidOut entity includePorts) racks l placements) :
    ∃ drawn, AllLaidOut racks entity includePorts drawn ∧
      drawn.map (·.placement) = placements ∧ l = ⟨[], drawn.map (·.cluster), []⟩ := by
  induction h with
  | nil => exact ⟨[], ⟨rfl, by simp⟩, rfl, rfl⟩
  | @cons rack l placement racks ls placements h _ ih =>
    obtain ⟨cluster, rfl, hcluster⟩ := h
    obtain ⟨drawn, hdrawn, rfl, rfl⟩ := ih
    refine ⟨⟨rack, placement, cluster⟩ :: drawn, ⟨?_, ?_⟩, rfl, rfl⟩
    · rw [List.map_cons, hdrawn.racks]
    · exact List.forall_mem_cons.2 ⟨hcluster, hdrawn.each⟩

/-- The racks of a diagram without their common rank. -/
def drawFramed (site : Option Site) (racks : List Rack) (entity : EntityType)
    (options : RenderOptions) : Draw (List RackPlacement) :=
  match site with
  | some s =>
    inCluster ("site_" ++ s.id) (Style.cluster (some s.label)) (drawRacks racks entity options)
  | none => drawRacks racks entity options

theorem drawRackDiagram_eq (site : Option Site) (racks : List Rack) (entity : EntityType)
    (options : RenderOptions) :
    drawRackDiagram site racks entity options =
      drawFramed site racks entity options >>= fun placements =>
        sideBySide (placements.map (·.anchor)) >>= fun _ =>
          pure (placements.flatMap (·.devices)) := by
  cases site <;> rfl

/-- The racks of a diagram are one layer. -/
theorem lays_framed (site : Option Site) (racks : List Rack) (entity : EntityType)
    (options : RenderOptions) :
    Lays [] (drawFramed site racks entity options)
      fun l placements => ∃ drawn, AllLaidOut racks entity options.includePorts drawn ∧
        drawn.map (·.placement) = placements ∧ l.nodes = [] ∧ l.ordering = [] ∧
        Framed site (drawn.map (·.cluster)) l.clusters := by
  have hracks : Lays [] (drawRacks racks entity options) fun l placements =>
      ∃ drawn, AllLaidOut racks entity options.includePorts drawn ∧
        drawn.map (·.placement) = placements ∧ l = ⟨[], drawn.map (·.cluster), []⟩ :=
    (Lays.mapM fun rack _ => lays_rack rack entity options).mono fun _ _ => exists_drawn_of_stacks
  cases site with
  | none =>
    refine hracks.mono fun l placements h => ?_
    obtain ⟨drawn, hdrawn, hplacements, rfl⟩ := h
    exact ⟨drawn, hdrawn, hplacements, rfl, rfl, rfl⟩
  | some s =>
    refine Lays.inCluster (hracks.mono fun l placements h id => ?_)
    obtain ⟨drawn, hdrawn, hplacements, rfl⟩ := h
    exact ⟨drawn, hdrawn, hplacements, rfl, rfl, id, rfl⟩

/-- Declared identifiers that differ all join an empty group. -/
theorem Canvas.sameRank_addSameRank {c : Canvas} {ids : List String}
    (hdeclared : ∀ id ∈ ids, id ∈ c.declared) (hnodup : ids.Nodup)
    (hnone : c.graph.sameRank = []) : (c.addSameRank ids).graph.sameRank = ids := by
  have hfold : ∀ (ids group : List String), (∀ id ∈ ids, id ∈ c.declared) →
      (group ++ ids).Nodup →
      ids.foldl (fun group id =>
        if c.declared.contains id && !group.contains id then group ++ [id] else group) group =
        group ++ ids := by
    intro ids
    induction ids with
    | nil => exact fun group _ _ => (List.append_nil group).symm
    | cons id ids ih =>
      intro group hdeclared hnodup
      obtain ⟨hid, hids⟩ := List.forall_mem_cons.1 hdeclared
      have hnew : id ∉ group := by
        intro hmem
        exact (List.nodup_append.1 hnodup).2.2 id hmem id (by simp) rfl
      rw [List.foldl_cons, if_pos (by simp [hid, hnew]), ih _ hids (by simpa using hnodup),
        List.append_assoc]
      rfl
  change ids.foldl _ c.graph.sameRank = ids
  rw [hnone]
  exact hfold ids [] hdeclared hnodup

namespace AllLaidOut

variable {racks : List Rack} {entity : EntityType} {includePorts : Bool} {drawn : List DrawnRack}

/-- The nodes of all racks, those of each rack in its order. -/
theorem ids_eq (h : AllLaidOut racks entity includePorts drawn) {site : Option Site}
    {clusters : List Cluster} (hframed : Framed site (drawn.map (·.cluster)) clusters) :
    (Cluster.allNodesOf clusters).map (·.id) = drawn.flatMap fun r => r.placement.ids := by
  have hracks : ∀ drawn : List DrawnRack, (∀ r ∈ drawn, r.IsLaidOut entity includePorts) →
      (Cluster.allNodesOf (drawn.map (·.cluster))).map (·.id) =
        drawn.flatMap fun r => r.placement.ids := by
    intro drawn
    induction drawn with
    | nil => exact fun _ => rfl
    | cons r drawn ih =>
      intro heach
      obtain ⟨hr, hdrawn⟩ := List.forall_mem_cons.1 heach
      rw [List.map_cons, Cluster.allNodesOf, Cluster.allNodes_eq, hr.inner, List.map_append,
        ih hdrawn, List.map_append, hr.ids, List.flatMap_cons]
      simp [Cluster.allNodesOf]
  unfold Framed at hframed
  cases site with
  | none =>
    obtain rfl := hframed
    exact hracks drawn h.each
  | some s =>
    obtain ⟨id, rfl⟩ := hframed
    rw [← hracks drawn h.each]
    simp [Cluster.allNodesOf, Cluster.allNodes_eq]

theorem anchors_sublist (drawn : List DrawnRack) :
    (drawn.map fun r => r.placement.anchor).Sublist (drawn.flatMap fun r => r.placement.ids) := by
  rw [List.map_eq_flatMap]
  exact List.Sublist.flatMap_right _ fun r _ => by simp [RackPlacement.ids]

theorem ports_sublist (drawn : List DrawnRack) :
    ((drawn.flatMap fun r => r.placement.devices).flatMap fun p => p.ports.map Prod.snd).Sublist
      (drawn.flatMap fun r => r.placement.ids) := by
  rw [List.flatMap_assoc]
  refine List.Sublist.flatMap_right _ fun r _ => ?_
  exact ((List.sublist_append_right _ _).trans (List.sublist_cons_self _ _))

end AllLaidOut

/-- The lines from devices to their ports, in the order of drawing. -/
def portLines (drawn : List DrawnRack) : List Edge :=
  (drawn.flatMap fun r => r.placement.devices).flatMap Placement.portLinks

/-- Every port has a line of its own. -/
theorem filter_portLines {drawn : List DrawnRack}
    (h : (drawn.flatMap fun r => r.placement.ids).Nodup) {r : DrawnRack} (hr : r ∈ drawn)
    {p : Placement} (hp : p ∈ r.placement.devices) {port : String × String}
    (hport : port ∈ p.ports) :
    (portLines drawn).filter (fun e => e.target = port.2) =
      [⟨p.node, port.2, Style.portLink⟩] := by
  have htargets : (portLines drawn).map (·.target) =
      (drawn.flatMap fun r => r.placement.devices).flatMap fun p => p.ports.map Prod.snd := by
    rw [portLines, List.map_flatMap]
    congr 1
    funext p
    rw [Placement.portLinks, List.map_map]
    rfl
  have hline : (⟨p.node, port.2, Style.portLink⟩ : Edge) ∈ portLines drawn :=
    List.mem_flatMap.2 ⟨p, List.mem_flatMap.2 ⟨r, hr, hp⟩, List.mem_map.2 ⟨port, hport, rfl⟩⟩
  exact filter_eq_singleton (htargets ▸ h.sublist (AllLaidOut.ports_sublist drawn)) hline

/-- A canvas that shows racks and nothing else. -/
structure Canvas.ShowsRacks (c : Canvas) (site : Option Site) (drawn : List DrawnRack) : Prop where
  scopes : c.scopes = []
  nodes : c.graph.nodes = []
  ordering : c.graph.ordering = []
  clusters : Framed site (drawn.map (·.cluster)) c.graph.clusters

/-- The nodes of a rack diagram on a blank canvas. -/
theorem drawRackDiagram_blank (site : Option Site) (racks : List Rack) (entity : EntityType)
    (options : RenderOptions) {places : List Placement} {c : Canvas}
    (h : drawRackDiagram site racks entity options .blank = (places, c)) :
    ∃ drawn, AllLaidOut racks entity options.includePorts drawn ∧
      places = (drawn.flatMap fun r => r.placement.devices) ∧ c.ShowsRacks site drawn ∧
      ((drawn.map fun r => r.placement.anchor).Nodup → c.graph.sameRank =
        if racks.length ≤ 1 then [] else drawn.map fun r => r.placement.anchor) := by
  obtain ⟨l, houtline, hdeclared, drawn, hdrawn, hplacements, hnodes, hordering, hframed⟩ :=
    lays_framed site racks entity options .blank (by simp)
  have hlength : racks.length = drawn.length := by
    rw [← hdrawn.racks, List.length_map]
  have hids : ∀ id ∈ drawn.map fun r => r.placement.anchor, id ∈ l.ids := by
    intro id hid
    rw [Layer.ids, hnodes, List.nil_append, hdrawn.ids_eq hframed]
    exact (AllLaidOut.anchors_sublist drawn).subset hid
  rw [drawRackDiagram_eq, bind_apply, bind_apply] at h
  obtain ⟨hplaces, hcanvas⟩ := Prod.mk.inj h
  rw [← hplacements] at hplaces hcanvas
  rw [List.map_map] at hcanvas
  generalize (drawFramed site racks entity options .blank).2 = framed at houtline hdeclared hcanvas
  have hshows : framed.ShowsRacks site drawn := by
    refine ⟨congrArg Outline.scopes houtline, ?_, ?_, ?_⟩
    · exact (congrArg (·.graph.nodes) houtline).trans hnodes
    · exact (congrArg (·.graph.ordering) houtline).trans hordering
    · have hclusters : framed.graph.clusters = l.clusters :=
        congrArg (·.graph.clusters) houtline
      rwa [hclusters]
  have hnone : framed.graph.sameRank = [] := congrArg (·.graph.sameRank) houtline
  refine ⟨drawn, hdrawn, ?_, ?_⟩
  · rw [← hplaces, List.flatMap_map]
  · change (sideBySide (drawn.map fun r => r.placement.anchor) framed).2 = c at hcanvas
    rw [← hcanvas, sideBySide, hlength]
    by_cases hmany : 1 < (drawn.map fun r => r.placement.anchor).length
    · rw [if_pos hmany, if_neg (by rw [List.length_map] at hmany; omega)]
      refine ⟨⟨hshows.scopes, hshows.nodes, hshows.ordering, hshows.clusters⟩, fun hnodup => ?_⟩
      exact Canvas.sameRank_addSameRank (fun id hid => hdeclared id (.inl (hids id hid))) hnodup
        hnone
    · rw [if_neg hmany, if_pos (by rw [List.length_map] at hmany; omega)]
      exact ⟨hshows, fun _ => hnone⟩

-- ════════════════════════════════════════════════════════════════════════
-- Results
-- ════════════════════════════════════════════════════════════════════════

/-- The racks of a document that shows racks, and the site around them. -/
inductive ListsRacks : Kind → Mapping → List Rack → Option Site → Prop where
  | equipment {m : Mapping} {racks : List Rack} {site : Option Site}
      (hracks : Rack.ofDocument m = .ok racks) (hsite : Site.header m = .ok site) :
      ListsRacks .siteEquipment m racks site
  | servers {m : Mapping} {racks : List Rack} (hracks : Rack.ofServerDocument m = .ok racks) :
      ListsRacks .rackServers m racks none

/-- What the devices of racks are. -/
def Kind.rackEntity : Kind → EntityType
  | .rackServers => .server
  | _ => .device

/-- The racks are all that the result shows, each laid out in a cluster of its own. The lines from
    devices to ports come before all connections, one for each port. -/
structure RacksLaidOut (m : Mapping) (options : RenderOptions) (g : Generated)
    (racks : List Rack) (site : Option Site) (w : Groundwork) (drawn : List DrawnRack) : Prop where
  laidOut : AllLaidOut racks g.kind.rackEntity options.includePorts drawn
  arranged : ∀ rack ∈ racks, rack.Arranged (Rack.displayOrder rack.devices)
  clusters : Framed site (drawn.map (·.cluster)) g.diagram.graph.clusters
  nodes : g.diagram.graph.nodes = []
  ordering : g.diagram.graph.ordering = []
  edges : g.diagram.graph.edges =
    portLines drawn ++ (recordsOf g.kind m).filterMap fun r => (w.outcome r).edge
  lines : ∀ r ∈ drawn, ∀ p ∈ r.placement.devices, ∀ port ∈ p.ports,
    (portLines drawn).filter (fun e => e.target = port.2) = [⟨p.node, port.2, Style.portLink⟩]
  sameRank : g.diagram.graph.sameRank =
    if racks.length ≤ 1 then [] else drawn.map fun r => r.placement.anchor
  anchors : (drawn.map fun r => r.placement.anchor).Nodup

namespace Course

variable {m : Mapping} {options : RenderOptions} {g : Generated} {w : Groundwork}
  {es : List Event} {l : Log}

/-- A document that shows racks is drawn on a blank canvas by drawing them. -/
theorem exists_racks (h : Course m options g w es l)
    (hkind : g.kind = .siteEquipment ∨ g.kind = .rackServers) :
    ∃ racks site, ListsRacks g.kind m racks site ∧
      drawRackDiagram site racks g.kind.rackEntity options .blank = (w.places, w.canvas) := by
  obtain ⟨scene, places, canvas⟩ := w
  obtain ⟨hscene, hdrawn⟩ := Plan.groundwork_eq_ok h.groundwork
  rcases hkind with hkind | hkind
  · rw [hkind] at hscene hdrawn ⊢
    cases Stages.of_scene hscene with
    | siteEquipment hracks hsite hcabling => exact ⟨_, _, .equipment hracks hsite, hdrawn⟩
  · rw [hkind] at hscene hdrawn ⊢
    cases Stages.of_scene hscene with
    | rackServers hracks hcabling => exact ⟨_, none, .servers hracks, hdrawn⟩

end Course

theorem ListsRacks.inOrder {kind : Kind} {m : Mapping} {racks : List Rack} {site : Option Site}
    (h : ListsRacks kind m racks site) : ∀ rack ∈ racks, InOrder rack.devices := by
  cases h with
  | equipment hracks => exact Rack.inOrder_of_ofDocument hracks
  | servers hracks => exact Rack.inOrder_of_ofServerDocument hracks

/-- Every run for a document that shows racks lays them out. -/
theorem Course.racksLaidOut {m : Mapping} {options : RenderOptions} {g : Generated}
    {w : Groundwork} {es : List Event} {l : Log} (h : Course m options g w es l)
    (hkind : g.kind = .siteEquipment ∨ g.kind = .rackServers) :
    ∃ racks site drawn, ListsRacks g.kind m racks site ∧
      RacksLaidOut m options g racks site w drawn := by
  obtain ⟨racks, site, hlists, hdraw⟩ := h.exists_racks hkind
  obtain ⟨drawn, hdrawn, hplaces, hshows, hrank⟩ :=
    drawRackDiagram_blank site racks g.kind.rackEntity options hdraw
  have hdiagram := h.diagram_eq hshows.scopes
  -- identifiers are given once, so neither anchors nor ports repeat
  have hnodup : (drawn.flatMap fun r => r.placement.ids).Nodup := by
    rw [← hdrawn.ids_eq hshows.clusters]
    have hids := h.nodup_ids hshows.scopes
    rwa [Graph.allNodes, hshows.nodes, List.nil_append] at hids
  have hanchors := hnodup.sublist (AllLaidOut.anchors_sublist drawn)
  have hlinks : g.kind.linksPorts = true := by
    rcases hkind with hkind | hkind <;> rw [hkind] <;> rfl
  have hnoPortLinks : w.scene.portLinks = [] := by
    apply h.portLinks_eq_nil
    rcases hkind with hkind | hkind <;> rw [hkind] <;> decide
  refine ⟨racks, site, drawn, hlists, ?_⟩
  exact {
    laidOut := hdrawn
    arranged := fun rack hrack => Rack.arranged_displayOrder (hlists.inOrder rack hrack)
    clusters := by rw [hdiagram]; exact hshows.clusters
    nodes := by rw [hdiagram]; exact hshows.nodes
    ordering := by rw [hdiagram]; exact hshows.ordering
    edges := by
      rw [h.edges, h.edges_canvas, if_pos hlinks, h.edges_records, hnoPortLinks, hplaces,
        List.filterMap_nil, List.append_nil]
      rfl
    lines := fun r hr p hp port hport => filter_portLines hnodup hr hp hport
    sameRank := by rw [hdiagram]; exact hrank hanchors
    anchors := hanchors }

/-- **Racks end to end.** Every document that shows racks is drawn with one cluster for each of
    them in its order; the cluster declares the anchor, each device once from top to bottom, and
    their ports if ports are drawn, all chained in this order; and the anchors share a rank unless
    there is just one. -/
theorem racksLaidOut_of_generate {doc : Value} {options : RenderOptions} {g : Generated}
    (h : generate doc options = .ok g)
    (hkind : g.kind = .siteEquipment ∨ g.kind = .rackServers) :
    ∃ m racks site w drawn, doc = .mapping m ∧ ListsRacks g.kind m racks site ∧
      (Plan.ofKind g.kind m options).groundwork = .ok w ∧
      RacksLaidOut m options g racks site w drawn := by
  obtain ⟨m, w, es, l, hm, hcourse⟩ := exists_course h
  obtain ⟨racks, site, drawn, hlists, hlaid⟩ := hcourse.racksLaidOut hkind
  exact ⟨m, racks, site, w, drawn, hm, hlists, hcourse.groundwork, hlaid⟩

/-- A rack whose devices are listed from the bottom, and an empty rack beside it. -/
def mounted : Mapping :=
  [("site", .text "hq"), ("racks", .list [
    .mapping [("id", .text "r1"), ("devices", .list [
      .mapping [("id", .text "loose")],
      .mapping [("id", .text "low"), ("position", .mapping [("unit", .number (.int 2))])],
      .mapping [("id", .text "high"), ("position", .mapping [("unit", .number (.int 40))]),
        ("ports", .list [.text "p"])]])],
    .text "r2"])]

theorem racksLaidOut_mounted : ∃ g, generate (.mapping mounted) .standard = .ok g ∧
    g.kind = .siteEquipment ∧
    ∃ m racks site w drawn, .mapping mounted = Value.mapping m ∧ ListsRacks g.kind m racks site ∧
      (Plan.ofKind g.kind m .standard).groundwork = .ok w ∧
      RacksLaidOut m .standard g racks site w drawn := by
  have hresult : ((generate (.mapping mounted) .standard).toOption.map (·.kind)) =
      some .siteEquipment := by
    decide +kernel
  obtain ⟨g, hg, hkind⟩ := exists_of_toOption_map hresult
  exact ⟨g, hg, hkind, racksLaidOut_of_generate hg (.inl hkind)⟩

/-- A device that is connected to a port of its own. -/
def selfCabled : Mapping :=
  [("racks", .list [.mapping [("id", .text "r"), ("devices", .list [
      .mapping [("id", .text "d"), ("ports", .list [.text "p"])]])]]),
    ("connections", .list [.mapping [("from", .text "d"),
      ("to", .mapping [("device", .text "d"), ("port", .text "p")])]])]

/-- The connection is a second edge from the device to its port. -/
theorem not_singleLine_selfCabled : ∃ g, generate (.mapping selfCabled) .standard = .ok g ∧
    g.kind = .siteEquipment ∧ g.diagnostics.length = 0 ∧
    ["d", "d:p"].map (fun key => (g.nodeMap.find? key).map (·.graphNodeId)) =
      [some "d", some "\"d:p\""] ∧
    g.diagram.graph.edges.map (fun e => (e.source, e.target, e.attrs.isInvisible)) =
      [("d", "\"d:p\"", false), ("d", "\"d:p\"", false)] := by
  have hresult : ((generate (.mapping selfCabled) .standard).toOption.map fun g =>
      ((g.kind, g.diagnostics.length),
        ["d", "d:p"].map (fun key => (g.nodeMap.find? key).map (·.graphNodeId)),
        g.diagram.graph.edges.map fun e => (e.source, e.target, e.attrs.isInvisible))) =
      some ((.siteEquipment, 0), [some "d", some "\"d:p\""],
        [("d", "\"d:p\"", false), ("d", "\"d:p\"", false)]) := by
    decide +kernel
  obtain ⟨g, hg, hshown⟩ := exists_of_toOption_map hresult
  simp only [Prod.mk.injEq, and_assoc] at hshown
  exact ⟨g, hg, hshown⟩

end InfraDiagram

import InfraDiagram.Proofs.HiddenPorts

/-!
# Zones divide the devices

A flat list of devices is drawn zone by zone. However zones and identifiers repeat, every entry of
the list becomes one node, and it stands where its zone puts it.

## Main definitions

- `ListsZoned` — the devices of a document that shows zones, and the note in front of them
- `Generated.ShowsZone`, `Generated.Zoned` — a cluster for a zone, and a whole result

## Main statements

- `zonesOf_firstSeen` — the zones of a list stand in the order in which they first appear
- `lays_zoned`, `lays_noted` — what is drawn, and the places that are given back for it
- `zoned_of_generate` — every topology and every intent
-/

namespace InfraDiagram

open Dot

-- ════════════════════════════════════════════════════════════════════════
-- Zones
-- ════════════════════════════════════════════════════════════════════════

/-- Leaving out items does not change which of two others comes first. -/
theorem idxOf_lt_of_filter {α : Type} [BEq α] [LawfulBEq α] {p : α → Bool} {a b : α}
    (ha : p a = true) (hb : p b = true) {xs : List α}
    (h : (xs.filter p).idxOf a < (xs.filter p).idxOf b) : xs.idxOf a < xs.idxOf b := by
  induction xs with
  | nil => exact h
  | cons x xs ih =>
    by_cases hx : p x = true
    · rw [List.filter_cons_of_pos hx] at h
      rcases eq_or_ne x a with rfl | hxa <;> rcases eq_or_ne x b with rfl | hxb
      · exact absurd h (Nat.lt_irrefl _)
      · rw [List.idxOf_cons_self, List.idxOf_cons_ne _ hxb]
        exact Nat.succ_pos _
      · rw [List.idxOf_cons_self] at h
        exact absurd h (Nat.not_lt_zero _)
      · rw [List.idxOf_cons_ne _ hxa, List.idxOf_cons_ne _ hxb] at h ⊢
        exact Nat.succ_lt_succ (ih (Nat.lt_of_succ_lt_succ h))
    · have hxa : x ≠ a := by
        rintro rfl
        exact hx ha
      have hxb : x ≠ b := by
        rintro rfl
        exact hx hb
      rw [List.filter_cons_of_neg hx] at h
      rw [List.idxOf_cons_ne _ hxa, List.idxOf_cons_ne _ hxb]
      exact Nat.succ_lt_succ (ih h)

/-- What is left of a list without its repetitions stands in the order of first appearance. -/
theorem pairwise_eraseDups {α : Type} [BEq α] [LawfulBEq α] (xs : List α) :
    xs.eraseDups.Pairwise fun a b => xs.idxOf a < xs.idxOf b := by
  match xs with
  | [] => exact .nil
  | x :: xs =>
    have hother : ∀ a ∈ (xs.filter fun y => !y == x).eraseDups, x ≠ a := by
      rintro a ha rfl
      simpa using List.mem_eraseDups.1 ha
    rw [List.eraseDups_cons, List.pairwise_cons]
    refine ⟨fun a ha => ?_, (pairwise_eraseDups _).imp_of_mem fun {a b} ha hb hlt => ?_⟩
    · rw [List.idxOf_cons_self, List.idxOf_cons_ne _ (hother a ha)]
      exact Nat.succ_pos _
    · rw [List.idxOf_cons_ne _ (hother a ha), List.idxOf_cons_ne _ (hother b hb)]
      have hstays : ∀ c ∈ (xs.filter fun y => !y == x).eraseDups, (!c == x) = true := fun c hc =>
        (List.mem_filter.1 (List.mem_eraseDups.1 hc)).2
      exact Nat.succ_lt_succ
        (idxOf_lt_of_filter (p := fun y => !y == x) (hstays a ha) (hstays b hb) hlt)
termination_by xs.length
decreasing_by exact Nat.lt_succ_of_le (List.length_filter_le ..)

theorem mem_zonesOf {devices : List Device} {zone : String} :
    zone ∈ zonesOf devices ↔ ∃ d ∈ devices, d.zone = some zone := by
  rw [zonesOf, List.mem_eraseDups, List.mem_filterMap]

theorem zonesOf_firstSeen (devices : List Device) :
    (zonesOf devices).Pairwise fun a b =>
      (devices.filterMap (·.zone)).idxOf a < (devices.filterMap (·.zone)).idxOf b :=
  pairwise_eraseDups _

-- ════════════════════════════════════════════════════════════════════════
-- Layers
-- ════════════════════════════════════════════════════════════════════════

/-- The nodes of devices as flat lists show them. -/
def shownDevices (devices : List Device) : List Declaration :=
  devices.map fun d => d.declaration .device false

theorem Layer.ids_append_of_clusters {a b : Layer} (h : a.clusters = []) :
    (a ++ b).ids = a.ids ++ b.ids := by
  rw [ids, ids, ids, nodes_append, clusters_append, h]
  simp [Cluster.allNodesOf]

theorem Layer.ids_append_of_nodes {a b : Layer} (h : b.nodes = []) :
    (a ++ b).ids = a.ids ++ b.ids := by
  rw [ids, ids, ids, nodes_append, clusters_append, h]
  simp [Cluster.allNodesOf_append]

/-- The layer has the nodes of these devices in the order of the places that are given for them,
    and no ordering edges, neither itself nor in its clusters. -/
structure Layer.Emits (l : Layer) (devices : List Device) (placed : List Placement) : Prop where
  ids : l.ids = placed.map (·.node)
  keys : placed.map (·.key) = devices.map (·.id)
  ordering : l.ordering = []
  clusters : ∀ c ∈ l.clusters, c.ordering = []

namespace Layer.Emits

variable {l l' : Layer} {devices devices' : List Device} {placed placed' : List Placement}

theorem append (h : l.Emits devices placed) (h' : l'.Emits devices' placed')
    (hids : (l ++ l').ids = l.ids ++ l'.ids) :
    (l ++ l').Emits (devices ++ devices') (placed ++ placed') where
  ids := by rw [hids, h.ids, h'.ids, List.map_append]
  keys := by rw [List.map_append, h.keys, h'.keys, List.map_append]
  ordering := by rw [Layer.ordering_append, h.ordering, h'.ordering, List.append_nil]
  clusters := List.forall_mem_append.2 ⟨h.clusters, h'.clusters⟩

/-- Devices in a cluster that has nothing else in it. -/
theorem ofCluster (h : l.Emits devices placed) (id : String) (attrs : Attrs) :
    (Layer.ofCluster ⟨id, attrs, l.nodes, l.clusters, l.ordering⟩).Emits devices placed where
  ids := by
    rw [← h.ids]
    simp [Layer.ids, Layer.ofCluster, Cluster.allNodesOf, Cluster.allNodes_eq]
  keys := h.keys
  ordering := rfl
  clusters c hc := by
    rw [List.mem_singleton.1 hc]
    exact h.ordering

/-- Clusters of devices that follow each other. -/
theorem of_stacks {α : Type} {R : α → Layer → List Placement → Prop} {f : α → List Device}
    {xs : List α} {placed : List (List Placement)} (h : Stacks R xs l placed)
    (hR : ∀ x l placed, R x l placed → l.nodes = [] ∧ l.Emits (f x) placed) :
    l.nodes = [] ∧ l.Emits (xs.flatMap f) placed.flatten := by
  induction h with
  | nil => exact ⟨rfl, rfl, rfl, rfl, fun c hc => absurd hc List.not_mem_nil⟩
  | @cons x l y xs ls ys h _ ih =>
    obtain ⟨hnodes, hfirst⟩ := hR _ _ _ h
    obtain ⟨hnone, hrest⟩ := ih
    refine ⟨?_, hfirst.append hrest (Layer.ids_append_of_nodes hnone)⟩
    rw [Layer.nodes_append, hnodes, hnone, List.append_nil]

end Layer.Emits

theorem lays_devices {needs : List String} (devices : List Device) :
    Lays needs (drawDevices devices) fun l placed => l.clusters = [] ∧ l.Emits devices placed := by
  have hone : ∀ d ∈ devices, Lays needs
      (do
        let node ← declare (d.declaration .device false)
        return (⟨d.id, node, []⟩ : Placement))
      fun l p => p.key = d.id ∧ l.Declares [d.declaration .device false] [p.node] := fun d _ =>
    (Lays.declare _).map fun l id hl => ⟨rfl, hl ▸ .single _ _⟩
  refine (Lays.mapM hone).mono fun l placed h => ?_
  have hall := Layer.Declares.of_stacks_singles h fun _ _ _ hd => hd.2
  refine ⟨hall.clusters, ?_, h.map_eq fun _ _ _ hd => hd.1, hall.ordering, ?_⟩
  · rw [Layer.ids, hall.clusters, ← hall.ids]
    exact congrArg (List.map _) (List.append_nil _)
  · rw [hall.clusters]
    exact fun c hc => absurd hc List.not_mem_nil

theorem lays_zoned {needs : List String} (devices : List Device) :
    Lays needs (drawZoned devices) fun l placed => l.Emits (zoneOrder devices) placed := by
  refine (lays_devices _).bind fun l free ⟨hnone, hfree⟩ => ?_
  have hzones : ∀ zone ∈ zonesOf devices, Lays (l.ids ++ needs)
      (inCluster ("zone_" ++ zone) (Style.cluster (some zone))
        (drawDevices (devices.filter (·.zone == some zone))))
      fun l placed => l.nodes = [] ∧ l.Emits (devices.filter (·.zone == some zone)) placed :=
    fun zone _ => .inCluster <| (lays_devices _).mono fun l placed h id => ⟨rfl, h.2.ofCluster _ _⟩
  refine (Lays.mapM hzones).map fun l' zoned hzoned => ?_
  obtain ⟨-, hl'⟩ := Layer.Emits.of_stacks hzoned fun _ _ _ hzone => hzone
  exact hfree.append hl' (Layer.ids_append_of_clusters hnone)

/-- The edges that put a note before the first of some places. -/
def leads (noteIds : List String) (placed : List Placement) : List Edge :=
  noteIds.flatMap fun noteId => (placed.take 1).map fun first =>
    ⟨noteId, first.node, Attrs.empty.raw "style" "invis"⟩

/-- Zoned devices, with a note in front of them if there is one. -/
def drawNoted (note : Option Declaration) (devices : List Device) : Draw (List Placement) :=
  match note with
  | none => drawZoned devices
  | some note => drawIntent note devices

/-- The layer has the note, then the devices in the order of their places, and no ordering edges
    but those from the note. -/
structure Layer.Follows (l : Layer) (note : Option Declaration) (devices : List Device)
    (noteIds : List String) (placed : List Placement) : Prop where
  noted : noteIds.length = note.toList.length
  ids : l.ids = noteIds ++ placed.map (·.node)
  keys : placed.map (·.key) = devices.map (·.id)
  ordering : l.ordering = leads noteIds placed
  clusters : ∀ c ∈ l.clusters, c.ordering = []

theorem lays_noted {needs : List String} (note : Option Declaration) (devices : List Device) :
    Lays needs (drawNoted note devices) fun l placed =>
      ∃ noteIds, l.Follows note (zoneOrder devices) noteIds placed := by
  cases note with
  | none =>
    exact (lays_zoned devices).mono fun l placed h =>
      ⟨[], rfl, h.ids, h.keys, h.ordering, h.clusters⟩
  | some note =>
    refine (Lays.declare note).bind fun l noteId hl => ?_
    refine (lays_zoned devices).bind fun l' placed h => ?_
    refine (lays_aboveFirst ?_ fun p hp => ?_).map fun l'' _ hl'' => ?_
    · simp [hl, Layer.ids, Layer.ofNode]
    · have hmem : p.node ∈ l'.ids := h.ids ▸ List.mem_map_of_mem hp
      exact List.mem_append_left _ hmem
    · have hchain : chain (noteId :: (placed.map (·.node)).take 1) = leads [noteId] placed := by
        cases placed <;> rfl
      have hnone : (l' ++ l'').ids = l'.ids := by
        rw [hl'', Layer.ids_append_of_nodes rfl]
        exact List.append_nil _
      refine ⟨[noteId], rfl, ?_, h.keys, ?_, ?_⟩
      · rw [Layer.ids_append_of_clusters (by rw [hl]; rfl), hnone, hl, h.ids]
        rfl
      · rw [Layer.ordering_append, Layer.ordering_append, hl, hl'', h.ordering, hchain]
        rfl
      · rw [Layer.clusters_append, Layer.clusters_append, hl, hl'']
        exact List.forall_mem_append.2 ⟨by simp [Layer.ofNode],
          List.forall_mem_append.2 ⟨h.clusters, by simp [Layer.ofOrdering]⟩⟩

theorem sketches_noted (note : Option Declaration) (devices : List Device) :
    Sketches (drawNoted note devices) (⟨note.toList, []⟩ ++ .zoned devices) := by
  cases note with
  | none => exact sketches_zoned devices
  | some note => exact sketches_intent note devices

-- ════════════════════════════════════════════════════════════════════════
-- Results
-- ════════════════════════════════════════════════════════════════════════

/-- The devices of a document that shows zones, and the note in front of them. What is marked by a
    null has neither. -/
inductive ListsZoned : Kind → Mapping → List Device → Option Declaration → Prop where
  | topology {m topology : Mapping} {devices : List Device}
      (hmarker : Field.mapping (m.get? "topology") (Path.root.key "topology") = .ok (some topology))
      (hdevices : Device.listIn topology ["devices", "nodes"] "device" (Path.root.key "topology")
        "device" = .ok devices) :
      ListsZoned .topology m devices none
  | nullTopology {m : Mapping}
      (hmarker : Field.mapping (m.get? "topology") (Path.root.key "topology") = .ok none) :
      ListsZoned .topology m [] none
  | intent {m intent : Mapping} {devices : List Device} {goals : List Value} {path : Path}
      (hmarker : Field.mapping (m.get? "intent") (Path.root.key "intent") = .ok (some intent))
      (hdevices : Device.listIn intent ["devices", "endpoints"] "device" (Path.root.key "intent")
        "device" = .ok devices)
      (hgoals : Field.listAlias intent ["goals", "requirements"] (Path.root.key "intent") =
        .ok (goals, path)) :
      ListsZoned .intent m devices
        (some (intentNote ((Field.firstText intent ["name", "id"]).getD "intent") intent goals))
  | nullIntent {m : Mapping}
      (hmarker : Field.mapping (m.get? "intent") (Path.root.key "intent") = .ok none) :
      ListsZoned .intent m [] none

/-- The scene of a document with zones draws its note and its devices. -/
theorem exists_zoned_of_scene {kind : Kind} {m : Mapping} {options : RenderOptions} {scene : Scene}
    (h : (Plan.ofKind kind m options).scene = .ok scene)
    (hkind : kind = .topology ∨ kind = .intent) :
    ∃ devices note, ListsZoned kind m devices note ∧ scene.nodes = drawNoted note devices := by
  cases Stages.of_scene h with
  | topology hmarker hdevices => exact ⟨_, none, .topology hmarker hdevices, rfl⟩
  | nullTopology hmarker => exact ⟨[], none, .nullTopology hmarker, rfl⟩
  | intent hmarker hdevices hflows hgoals =>
    exact ⟨_, _, .intent hmarker hdevices hgoals, rfl⟩
  | nullIntent hmarker => exact ⟨[], none, .nullIntent hmarker, rfl⟩
  | _ => simp at hkind

namespace Generated

/-- A cluster for a zone: it is labelled with the zone, declares the devices of the zone in their
    order, and has nothing else in it. -/
structure ShowsZone (g : Generated) (devices : List Device) (zone : String) (c : Cluster) :
    Prop where
  id : Id.MadeFrom ("cluster_" ++ ("zone_" ++ zone)) c.id
  attrs : c.attrs = Style.cluster (some zone)
  label : c.attrs.get? "label" = some ("\"" ++ Text.escapeLabel zone ++ "\"")
  nodes : List.Forall₂ g.ShowsAs (shownDevices (devices.filter (·.zone == some zone))) c.nodes
  clusters : c.clusters = []
  ordering : c.ordering = []

/-- A result that shows devices zone by zone, with the places that were given back for them. -/
structure Zoned (g : Generated) (devices : List Device) (note : Option Declaration)
    (noteIds : List String) (placed : List Placement) : Prop where
  /-- Outside of all clusters there are the note and the devices without a zone. -/
  free : List.Forall₂ g.ShowsAs (note.toList ++ shownDevices (devices.filter (·.zone.isNone)))
    g.diagram.graph.nodes
  clusters : List.Forall₂ (g.ShowsZone devices) (zonesOf devices) g.diagram.graph.clusters
  zones : ∀ zone, zone ∈ zonesOf devices ↔ ∃ d ∈ devices, d.zone = some zone
  firstSeen : (zonesOf devices).Pairwise fun a b =>
    (devices.filterMap (·.zone)).idxOf a < (devices.filterMap (·.zone)).idxOf b
  /-- All nodes together are the note and one node for each entry of the list. -/
  all : List.Forall₂ g.ShowsAs (note.toList ++ shownDevices (zoneOrder devices))
    g.diagram.graph.allNodes
  each : (zoneOrder devices).Perm devices
  once : g.diagram.graph.declaredIds.Nodup
  noted : noteIds.length = note.toList.length
  returned : g.diagram.graph.declaredIds = noteIds ++ placed.map (·.node)
  keys : placed.map (·.key) = (zoneOrder devices).map (·.id)
  ordering : g.diagram.graph.ordering = leads noteIds placed
  led : (leads noteIds placed).length = if note.isSome ∧ devices ≠ [] then 1 else 0

end Generated

theorem Sketch.devices_eq (devices : List Device) :
    Sketch.devices devices = ⟨shownDevices devices, []⟩ := by
  have hdeclarations : (Sketch.devices devices).declarations = shownDevices devices :=
    List.map_eq_flatMap.symm
  have hframes : (Sketch.devices devices).frames = [] :=
    List.flatMap_eq_nil_iff.2 fun _ _ => rfl
  rw [← hdeclarations, ← hframes]

/-- The devices without a zone, and a frame for each zone. -/
theorem Sketch.zoned_eq (devices : List Device) :
    Sketch.zoned devices = ⟨shownDevices (devices.filter (·.zone.isNone)),
      (zonesOf devices).map fun zone => ⟨"zone_" ++ zone, Style.cluster (some zone),
        shownDevices (devices.filter (·.zone == some zone)), []⟩⟩ := by
  have hnone : (zonesOf devices).flatMap (fun _ => ([] : List Declaration)) = [] :=
    List.flatMap_eq_nil_iff.2 fun _ _ => rfl
  rw [Sketch.zoned, Sketch.devices_eq]
  simp only [Sketch.devices_eq]
  show Sketch.mk (_ ++ (zonesOf devices).flatMap fun _ => []) _ = _
  rw [hnone, List.append_nil, List.map_eq_flatMap]
  rfl

namespace Generated

variable {g : Generated} {devices : List Device}

/-- A frame for a zone describes a cluster for it. -/
theorem showsZone_of_depicts {zone : String} {c : Cluster}
    (h : Cluster.Depicts g.ShowsAs ⟨"zone_" ++ zone, Style.cluster (some zone),
      shownDevices (devices.filter (·.zone == some zone)), []⟩ c) (hordering : c.ordering = []) :
    g.ShowsZone devices zone c := by
  cases h with
  | intro hid hnodes hclusters =>
    cases hclusters
    exact {
      id := hid
      attrs := rfl
      label := by
        show (Attrs.set _ "label" _).get? "label" = _
        rw [Attrs.get?_set, if_pos rfl]
      nodes := hnodes
      clusters := rfl
      ordering := hordering }

theorem showsZones {zones : List String} {clusters : List Cluster}
    (h : List.Forall₂ (Cluster.Depicts g.ShowsAs) (zones.map fun zone =>
      ⟨"zone_" ++ zone, Style.cluster (some zone),
        shownDevices (devices.filter (·.zone == some zone)), []⟩) clusters)
    (hordering : ∀ c ∈ clusters, c.ordering = []) :
    List.Forall₂ (g.ShowsZone devices) zones clusters := by
  rw [List.forall₂_map_left_iff] at h
  induction h with
  | nil => exact .nil
  | cons hfirst _ ih =>
    obtain ⟨hquiet, hrest⟩ := List.forall_mem_cons.1 hordering
    exact .cons (showsZone_of_depicts hfirst hquiet) (ih hrest)

/-- The nodes in the clusters of zones are those of the devices, zone by zone. -/
theorem ShowsZone.allNodesOf {zones : List String} {clusters : List Cluster}
    (h : List.Forall₂ (g.ShowsZone devices) zones clusters) :
    List.Forall₂ g.ShowsAs
      (shownDevices (zones.flatMap fun zone => devices.filter (·.zone == some zone)))
      (Cluster.allNodesOf clusters) := by
  induction h with
  | nil => exact .nil
  | cons hfirst _ ih =>
    rw [shownDevices, List.flatMap_cons, List.map_append, Cluster.allNodesOf, Cluster.allNodes_eq,
      hfirst.clusters]
    refine List.rel_append ?_ ih
    exact (List.append_nil _).symm ▸ hfirst.nodes

end Generated

theorem length_leads {note : Option Declaration} {noteIds : List String} {placed : List Placement}
    (h : noteIds.length = note.toList.length) :
    (leads noteIds placed).length = if note.isSome ∧ placed ≠ [] then 1 else 0 := by
  cases note with
  | none =>
    rw [List.length_eq_zero_iff.1 h]
    rfl
  | some note =>
    obtain ⟨noteId, rfl⟩ := List.length_eq_one_iff.1 h
    cases placed with
    | nil => rfl
    | cons first placed => rfl

theorem Generated.zoned_of_follows {g : Generated} {devices : List Device}
    {note : Option Declaration} {noteIds : List String} {placed : List Placement}
    (hdepicts : g.Depicts (⟨note.toList, []⟩ ++ .zoned devices))
    (hfollows : (⟨g.diagram.graph.nodes, g.diagram.graph.clusters, g.diagram.graph.ordering⟩ :
      Layer).Follows note (zoneOrder devices) noteIds placed)
    (honce : g.diagram.graph.declaredIds.Nodup) : g.Zoned devices note noteIds placed := by
  rw [Sketch.zoned_eq] at hdepicts
  have hfree : List.Forall₂ g.ShowsAs (note.toList ++ shownDevices (devices.filter
    (·.zone.isNone))) g.diagram.graph.nodes := hdepicts.nodes
  have hclusters : List.Forall₂ (g.ShowsZone devices) (zonesOf devices) g.diagram.graph.clusters :=
    Generated.showsZones hdepicts.clusters hfollows.clusters
  have hempty : placed = [] ↔ devices = [] := by
    have hlength := congrArg List.length hfollows.keys
    rw [List.length_map, List.length_map, (perm_zoneOrder devices).length_eq] at hlength
    rw [← List.length_eq_zero_iff, hlength, List.length_eq_zero_iff]
  exact {
    free := hfree
    clusters := hclusters
    zones := fun zone => mem_zonesOf
    firstSeen := zonesOf_firstSeen devices
    all := by
      rw [zoneOrder, shownDevices, List.map_append, ← List.append_assoc]
      exact List.rel_append hfree (Generated.ShowsZone.allNodesOf hclusters)
    each := perm_zoneOrder devices
    once := honce
    noted := hfollows.noted
    returned := hfollows.ids
    keys := hfollows.keys
    ordering := hfollows.ordering
    led := by
      rw [length_leads hfollows.noted]
      simp only [ne_eq, hempty] }

/-- Every run for a document with zones shows its devices zone by zone. -/
theorem Course.zoned {m : Mapping} {options : RenderOptions} {g : Generated} {w : Groundwork}
    {es : List Event} {l : Log} (h : Course m options g w es l)
    (hkind : g.kind = .topology ∨ g.kind = .intent) :
    ∃ devices note noteIds, ListsZoned g.kind m devices note ∧
      w.scene.nodes = drawNoted note devices ∧ g.Zoned devices note noteIds w.places := by
  obtain ⟨hscene, hdrawn⟩ := Plan.groundwork_eq_ok h.groundwork
  obtain ⟨devices, note, hlists, hnodes⟩ := exists_zoned_of_scene hscene hkind
  obtain ⟨hopen, hlayer⟩ := layer_comments (Plan.ofKind g.kind m options).comments .blank
  obtain ⟨hscopes, layer, hall, noteIds, hfollows⟩ :=
    (lays_noted note devices).at_top (c := _) hopen
  rw [← hnodes, hdrawn] at hscopes hall hfollows
  have hdiagram := h.diagram_eq hscopes
  have hwhole : w.canvas.layer = layer := by
    show (w.places, w.canvas).2.layer = layer
    rw [hall, hlayer]
    exact Layer.empty_append layer
  rw [← hwhole] at hfollows
  refine ⟨devices, note, noteIds, hlists, hnodes, ?_⟩
  refine Generated.zoned_of_follows (h.depicts (hnodes ▸ sketches_noted note devices)) ?_ ?_
  · rw [hdiagram]
    exact hfollows
  · rw [hdiagram]
    exact h.nodup_ids hscopes

/-- **Zones divide the devices.** Every topology and every intent shows each entry of its list once,
    without a frame or in the one cluster of its zone, and the places that are given back are those
    of the nodes in the order of drawing; a note comes before the first of them. -/
theorem zoned_of_generate {doc : Value} {options : RenderOptions} {g : Generated}
    (h : generate doc options = .ok g) (hkind : g.kind = .topology ∨ g.kind = .intent) :
    ∃ m devices note w noteIds, doc = .mapping m ∧ ListsZoned g.kind m devices note ∧
      (Plan.ofKind g.kind m options).groundwork = .ok w ∧
      w.scene.nodes = drawNoted note devices ∧ g.Zoned devices note noteIds w.places := by
  obtain ⟨m, w, es, l, hm, hcourse⟩ := exists_course h
  obtain ⟨devices, note, noteIds, hlists, hnodes, hzoned⟩ := hcourse.zoned hkind
  exact ⟨m, devices, note, w, noteIds, hm, hlists, hcourse.groundwork, hnodes, hzoned⟩

/-- Devices of one id, and zones whose clusters have one name. -/
def crowdedZones : Mapping :=
  [("intent", .mapping [("name", .text "dr"), ("devices", .list [
    .mapping [("id", .text "core"), ("zone", .text "a b")],
    .text "rim",
    .mapping [("id", .text "core"), ("zone", .text "a\tb")],
    .mapping [("id", .text "agg"), ("zone", .text "a b")]])])]

theorem zoned_crowdedZones : ∃ g, generate (.mapping crowdedZones) .standard = .ok g ∧
    g.kind = .intent ∧
    g.diagram.graph.declaredIds = ["intent_dr", "rim", "core", "agg", "core_2"] ∧
    g.diagram.graph.clusters.map (·.id) = ["\"cluster_zone_a b\"", "\"cluster_zone_a b_2\""] ∧
    g.diagram.graph.ordering.map (fun e => (e.source, e.target)) = [("intent_dr", "rim")] ∧
    ∃ m devices note w noteIds, Value.mapping crowdedZones = .mapping m ∧
      ListsZoned g.kind m devices note ∧
      (Plan.ofKind g.kind m .standard).groundwork = .ok w ∧
      w.scene.nodes = drawNoted note devices ∧ g.Zoned devices note noteIds w.places := by
  have hresult : ((generate (.mapping crowdedZones) .standard).toOption.map fun g =>
      (g.kind, g.diagram.graph.declaredIds, g.diagram.graph.clusters.map (·.id),
        g.diagram.graph.ordering.map fun e => (e.source, e.target))) =
      some (.intent, ["intent_dr", "rim", "core", "agg", "core_2"],
        ["\"cluster_zone_a b\"", "\"cluster_zone_a b_2\""], [("intent_dr", "rim")]) := by
    decide +kernel
  obtain ⟨g, hg, hshown⟩ := exists_of_toOption_map hresult
  simp only [Prod.mk.injEq] at hshown
  exact ⟨g, hg, hshown.1, hshown.2.1, hshown.2.2.1, hshown.2.2.2,
    zoned_of_generate hg (.inr hshown.1)⟩

end InfraDiagram

import InfraDiagram.Drawing.BareLinks
import InfraDiagram.Drawing.Racks
import InfraDiagram.Drawing.Servers
import InfraDiagram.Drawing.SingleDevice
import InfraDiagram.Drawing.Sites
import InfraDiagram.Drawing.Zones
import InfraDiagram.Proofs.Programs

/-!
# What the kinds of diagrams draw

Every kind of diagram declares the entities whose places it returns, each with its ports, and
nothing else that a connection could name. The only edges among the nodes are those from devices in
racks to their ports.

## Main definitions

- `Log.owners`, `Log.ports` — the entities and the ports that were declared
- `Places` — a log that declares exactly the entities at some places, with their ports

## Main statements

- `draws_sites`, `draws_rackDiagram`, `draws_servers`, `draws_zoned`, `draws_intent`,
  `draws_stack`, `draws_implied` — the nodes of each kind of diagram
-/

namespace InfraDiagram

open Dot

-- ════════════════════════════════════════════════════════════════════════
-- Entities and ports
-- ════════════════════════════════════════════════════════════════════════

/-- The entities that have places: all but the frames of racks, ports, and notes. -/
def EntityType.hasPlace : EntityType → Bool
  | .site | .device | .server | .peer => true
  | .rack | .port | .intent => false

def Call.entry (call : Call) : String × String :=
  (call.1.key, call.2)

/-- The entities with places that were declared, by key, in order. -/
def Log.owners (l : Log) : List (String × String) :=
  (l.calls.filter fun call => call.1.entity.hasPlace).map Call.entry

/-- The ports that were declared, by key, in order. -/
def Log.ports (l : Log) : List (String × String) :=
  (l.calls.filter fun call => call.1.entity = .port).map Call.entry

def Placement.portEntries (p : Placement) : List (String × String) :=
  p.ports.map fun port => (Port.key p.key port.1, port.2)

def Placement.portLinks (p : Placement) : List Edge :=
  p.ports.map fun port => ⟨p.node, port.2, Style.portLink⟩

@[simp]
theorem Log.owners_append (a b : Log) : (a ++ b).owners = a.owners ++ b.owners := by
  simp only [owners, calls_append, List.filter_append, List.map_append]

@[simp]
theorem Log.ports_append (a b : Log) : (a ++ b).ports = a.ports ++ b.ports := by
  simp only [ports, calls_append, List.filter_append, List.map_append]

theorem Log.mem_ids_of_mem_owners {l : Log} {key id : String} (h : (key, id) ∈ l.owners) :
    id ∈ l.ids := by
  obtain ⟨call, hcall, heq⟩ := List.mem_map.1 h
  exact List.mem_map.2 ⟨call, List.mem_of_mem_filter hcall, congrArg Prod.snd heq⟩

theorem Log.mem_ids_of_mem_ports {l : Log} {key id : String} (h : (key, id) ∈ l.ports) :
    id ∈ l.ids := by
  obtain ⟨call, hcall, heq⟩ := List.mem_map.1 h
  exact List.mem_map.2 ⟨call, List.mem_of_mem_filter hcall, congrArg Prod.snd heq⟩

/-- The log declares the entities at the given places and their ports, links the ports if
    `linked`, and neither draws other edges nor warns. -/
structure Places (linked : Bool) (l : Log) (ps : List Placement) : Prop where
  owners : l.owners = ps.map fun p => (p.key, p.node)
  ports : l.ports = ps.flatMap Placement.portEntries
  edges : l.edges = if linked then ps.flatMap Placement.portLinks else []
  warnings : l.warnings = []

/-- The log declares the given ports of an entity and nothing else, and links them if `linked`. -/
structure PlacesPorts (linked : Bool) (owner node : String) (l : Log)
    (drawn : List (String × String)) : Prop where
  owners : l.owners = []
  ports : l.ports = drawn.map fun port => (Port.key owner port.1, port.2)
  edges : l.edges = if linked then drawn.map fun port => ⟨node, port.2, Style.portLink⟩ else []
  warnings : l.warnings = []

namespace Places

variable {linked : Bool} {l l' : Log} {ps ps' : List Placement}

theorem nil : Places linked .empty [] :=
  ⟨rfl, rfl, by cases linked <;> rfl, rfl⟩

theorem append (h : Places linked l ps) (h' : Places linked l' ps') :
    Places linked (l ++ l') (ps ++ ps') where
  owners := by rw [Log.owners_append, h.owners, h'.owners, List.map_append]
  ports := by rw [Log.ports_append, h.ports, h'.ports, List.flatMap_append]
  edges := by
    rw [Log.edges_append, h.edges, h'.edges]
    cases linked <;> simp
  warnings := by rw [Log.warnings_append, h.warnings, h'.warnings]; rfl

theorem of_each {α : Type} {xs : List α}
    (h : Each (fun _ l p => Places linked l [p]) xs l ps) : Places linked l ps := by
  induction h with
  | nil => exact nil
  | cons h _ ih => exact h.append ih

theorem of_each_flatten {α : Type} {xs : List α} {pss : List (List Placement)}
    (h : Each (fun _ l ps => Places linked l ps) xs l pss) : Places linked l pss.flatten := by
  induction h with
  | nil => exact nil
  | cons h _ ih => exact h.append ih

/-- An entity without ports. -/
theorem single {d : Declaration} (hplace : d.entity.hasPlace = true) (node : String) :
    Places linked ⟨[(d, node)], [], []⟩ [⟨d.key, node, []⟩] := by
  have hport : d.entity ≠ .port := fun h => by simp [h, EntityType.hasPlace] at hplace
  refine ⟨?_, ?_, by cases linked <;> rfl, rfl⟩
  · simp [Log.owners, hplace, Call.entry]
  · simp [Log.ports, hport, Placement.portEntries]

/-- An entity that is followed by its ports. -/
theorem single_append {d : Declaration} (hplace : d.entity.hasPlace = true) {node : String}
    {ports : List (String × String)} (h : PlacesPorts linked d.key node l ports) :
    Places linked (⟨[(d, node)], [], []⟩ ++ l) [⟨d.key, node, ports⟩] := by
  have hone : Places linked ⟨[(d, node)], [], []⟩ [⟨d.key, node, []⟩] := single hplace node
  constructor
  · rw [Log.owners_append, hone.owners, h.owners, List.append_nil]
    rfl
  · rw [Log.ports_append, hone.ports, h.ports]
    simp [Placement.portEntries]
  · rw [Log.edges_append, h.edges]
    cases linked
    · rfl
    · simp [Placement.portLinks]
  · rw [Log.warnings_append, h.warnings]
    rfl

theorem node_mem_ids (h : Places linked l ps) {p : Placement} (hp : p ∈ ps) : p.node ∈ l.ids :=
  Log.mem_ids_of_mem_owners (h.owners ▸ List.mem_map.2 ⟨p, hp, rfl⟩)

end Places

/-- A frame or a note in front of entities. -/
theorem Places.cons_other {linked : Bool} {l : Log} {ps : List Placement} {d : Declaration}
    (hplace : d.entity.hasPlace = false) (hport : d.entity ≠ .port) {node : String}
    (h : Places linked l ps) : Places linked (⟨[(d, node)], [], []⟩ ++ l) ps where
  owners := by
    rw [Log.owners_append, h.owners]
    simp [Log.owners, hplace]
  ports := by
    rw [Log.ports_append, h.ports]
    simp [Log.ports, hport]
  edges := h.edges
  warnings := h.warnings

theorem PlacesPorts.nil {linked : Bool} {owner node : String} :
    PlacesPorts linked owner node .empty [] :=
  ⟨rfl, rfl, by cases linked <;> rfl, rfl⟩

theorem PlacesPorts.mem_ids {linked : Bool} {owner node : String} {l : Log}
    {drawn : List (String × String)} (h : PlacesPorts linked owner node l drawn) {id : String}
    (hid : id ∈ drawn.map Prod.snd) : id ∈ l.ids := by
  obtain ⟨port, hport, rfl⟩ := List.mem_map.1 hid
  have hentry : (Port.key owner port.1, port.2) ∈ l.ports :=
    h.ports ▸ List.mem_map.2 ⟨port, hport, rfl⟩
  exact Log.mem_ids_of_mem_ports hentry

-- ════════════════════════════════════════════════════════════════════════
-- Ports
-- ════════════════════════════════════════════════════════════════════════

/-- The log of one port of an entity. -/
def LogsPort (linked : Bool) (owner node : String) (p : Port) (l : Log)
    (port : String × String) : Prop :=
  port.1 = p.name ∧ l = ⟨[(p.declaration owner, port.2)],
    if linked then [⟨node, port.2, Style.portLink⟩] else [], []⟩

theorem PlacesPorts.of_each {linked : Bool} {owner node : String} {ports : List Port} {l : Log}
    {drawn : List (String × String)}
    (h : Each (LogsPort linked owner node) ports l drawn) :
    PlacesPorts linked owner node l drawn := by
  induction h with
  | nil => exact .nil
  | @cons p l port ports ls drawn h _ ih =>
    obtain ⟨hname, rfl⟩ := h
    have hkey : (p.declaration owner).key = Port.key owner port.1 := by rw [hname]; rfl
    constructor
    · rw [Log.owners_append, ih.owners]
      rfl
    · rw [Log.ports_append, ih.ports, List.map_cons, ← hkey]
      rfl
    · rw [Log.edges_append, ih.edges]
      cases linked <;> rfl
    · exact ih.warnings

theorem Device.draws_eachPort {needs : List String} (d : Device) (node : String) :
    Draws needs d.drawPorts (Each (LogsPort false d.id node) d.ports) :=
  Draws.mapM fun p _ => (Draws.declare (d := p.declaration d.id) Style.isPrintable_port).map
    fun _ _ hl => ⟨rfl, hl⟩

theorem Device.draws_ports {needs : List String} (d : Device) (node : String) :
    Draws needs d.drawPorts (PlacesPorts false d.id node) :=
  (d.draws_eachPort node).mono fun _ _ h => .of_each h

theorem Device.draws_linkedPorts {needs : List String} (d : Device) {node : String}
    (hnode : node ∈ needs) :
    Draws needs (d.drawLinkedPorts node) (PlacesPorts true d.id node) := by
  refine (Draws.mapM fun p _ => ?_).mono fun _ _ h => .of_each h
  have hdeclare : Draws needs (p.draw d.id) (LogsPort false d.id node p) :=
    (Draws.declare (d := p.declaration d.id) Style.isPrintable_port).map fun _ _ hl => ⟨rfl, hl⟩
  refine hdeclare.bind fun l port hport => ?_
  obtain ⟨hname, rfl⟩ := hport
  refine (Draws.edge (List.mem_append_right _ hnode) (List.mem_append_left _ ?_)
    Style.isPrintable_portLink Style.isInvisible_portLink).map fun l _ hl => ⟨hname, ?_⟩
  · simp [Log.ids]
  · rw [hl]
    rfl

/-- A program that goes on with the ports of an entity, or with none if ports are not drawn. -/
theorem draws_portsIf {α : Type} {needs : List String} {b : Bool}
    {m : Draw (List (String × String))} {f : List (String × String) → Draw α}
    {P : Log → List (String × String) → Prop} {post : Log → α → Prop}
    (hm : b = true → Draws needs m P) (hnone : b = false → P .empty [])
    (hf : ∀ l ports, P l ports →
      Draws (l.ids ++ needs) (f ports) fun l' a => post (l ++ l') a) :
    Draws needs (if b then m >>= f else pure [] >>= f) post := by
  cases b
  · have hempty : Draws needs (pure []) P := .pure (hnone rfl)
    exact hempty.bind hf
  · exact (hm rfl).bind hf

-- ════════════════════════════════════════════════════════════════════════
-- Sites, zones, implied nodes
-- ════════════════════════════════════════════════════════════════════════

/-- Entities without ports, one declaration each. -/
theorem draws_plain {α : Type} {needs : List String} {linked : Bool} {xs : List α}
    {declaration : α → Declaration} {key : α → String}
    (hkey : ∀ x, (declaration x).key = key x)
    (hplace : ∀ x, (declaration x).entity.hasPlace = true)
    (hattrs : ∀ x, (declaration x).attrs.IsPrintable) :
    Draws needs
      (xs.mapM fun x => do
        let node ← declare (declaration x)
        return (⟨key x, node, []⟩ : Placement))
      (Places linked) := by
  have hone : ∀ x ∈ xs, Draws needs
      (do
        let node ← declare (declaration x)
        return (⟨key x, node, []⟩ : Placement))
      fun l p => Places linked l [p] := by
    intro x _
    refine (Draws.declare (hattrs x)).map fun l node hl => ?_
    rw [hl, ← hkey x]
    exact .single (hplace x) node
  exact (Draws.mapM hone).mono fun _ _ h => .of_each h

theorem draws_sites {needs : List String} {linked : Bool} (sites : List Site) :
    Draws needs (drawSites sites) (Places linked) :=
  draws_plain (fun _ => rfl) (fun _ => rfl) fun _ => Style.isPrintable_site

theorem draws_devices {needs : List String} {linked : Bool} (devices : List Device) :
    Draws needs (drawDevices devices) (Places linked) :=
  draws_plain (fun _ => rfl) (fun _ => rfl) fun d => Style.isPrintable_device d.type

theorem draws_implied {needs : List String} {linked : Bool} (nodes : List Implied) :
    Draws needs (drawImplied nodes) (Places linked) := by
  refine draws_plain (fun _ => rfl) (fun n => ?_) fun n => ?_
  · obtain ⟨key, _ | d⟩ := n <;> rfl
  · obtain ⟨key, _ | d⟩ := n
    · exact Style.isPrintable_device ""
    · exact Style.isPrintable_device d.type

theorem draws_zoned {needs : List String} {linked : Bool} (devices : List Device) :
    Draws needs (drawZoned devices) (Places linked) := by
  -- the devices of zones are drawn after the free ones, with more identifiers at hand
  have hdevices : ∀ needs ds, Draws needs (drawDevices ds) (Places linked) :=
    fun _ => draws_devices
  refine (hdevices _ _).bind fun l free hfree => ?_
  refine (Draws.mapM fun zone _ => Draws.inCluster (Style.isPrintable_cluster _)
    (hdevices _ _)).map fun l' zoned hzoned => ?_
  exact hfree.append (.of_each_flatten hzoned)

theorem draws_intent {needs : List String} {linked : Bool} {note : Declaration}
    (hentity : note.entity = .intent) (hattrs : note.attrs.IsPrintable) (devices : List Device) :
    Draws needs (drawIntent note devices) (Places linked) := by
  refine (Draws.declare hattrs).bind fun l noteId hl => ?_
  have hzoned : Draws (l.ids ++ needs) (drawZoned devices) (Places linked) := draws_zoned devices
  refine hzoned.bind fun l' placed hplaced => ?_
  have hlog : Places linked (l ++ l') placed := by
    rw [hl]
    exact hplaced.cons_other (by rw [hentity]; rfl) (by rw [hentity]; decide)
  have horder : Draws (l'.ids ++ (l.ids ++ needs))
      (placed.head?.forM fun first => orderingEdge noteId first.node)
      fun l _ => l = .empty := by
    cases placed with
    | nil => exact .pure rfl
    | cons first rest =>
      refine .orderingEdge ?_ (List.mem_append_left _ (hplaced.node_mem_ids (by simp)))
      simp [hl, Log.ids]
  refine horder.map fun l'' _ hl'' => ?_
  rwa [hl'', Log.append_empty]

-- ════════════════════════════════════════════════════════════════════════
-- Single devices and servers
-- ════════════════════════════════════════════════════════════════════════

theorem draws_stack {needs : List String} (d : Device) (options : RenderOptions) :
    Draws needs (d.drawStack options) fun l p => Places false l [p] := by
  refine Draws.inCluster (Style.isPrintable_cluster none) ?_
  refine (Draws.declare (d := d.anchorDeclaration) Style.isPrintable_anchor).bind
    fun l anchor hl => ?_
  refine draws_portsIf (fun _ => d.draws_ports anchor) (fun _ => .nil) fun l' ports hports => ?_
  have hids : ∀ id ∈ anchor :: ports.map Prod.snd, id ∈ l'.ids ++ (l.ids ++ needs) := by
    intro id hid
    rcases List.mem_cons.1 hid with rfl | hid
    · simp [hl, Log.ids]
    · exact List.mem_append_left _ (hports.mem_ids hid)
  refine (draws_orderChain hids).map fun l'' _ hl'' => ?_
  rw [hl'', hl, Log.append_empty]
  exact Places.single_append (d := d.anchorDeclaration) rfl hports

theorem Device.draws_portFrame {needs : List String} (server : Device) {anchor : String}
    (hanchor : anchor ∈ needs) :
    Draws needs (server.drawPortFrame anchor)
      (Each (LogsPort false server.id anchor) server.ports) := by
  have hframe : Draws needs
      (inCluster (server.id ++ "_ports") (Style.cluster (some "Ports")) do
        let ports ← server.drawPorts
        orderChain (ports.map Prod.snd)
        return ports) (Each (LogsPort false server.id anchor) server.ports) := by
    refine Draws.inCluster (Style.isPrintable_cluster _) ?_
    refine (server.draws_eachPort anchor).bind fun l ports hports => ?_
    refine (draws_orderChain fun id hid => List.mem_append_left _
      ((PlacesPorts.of_each hports).mem_ids hid)).map fun l' _ hl' => ?_
    rwa [hl', Log.append_empty]
  refine hframe.bind fun l ports hports => ?_
  have horder : Draws (l.ids ++ needs)
      (ports.head?.forM fun first => orderingEdge anchor first.2) fun l _ => l = .empty := by
    cases ports with
    | nil => exact .pure rfl
    | cons first rest =>
      exact .orderingEdge (List.mem_append_right _ hanchor)
        (List.mem_append_left _ ((PlacesPorts.of_each hports).mem_ids (by simp)))
  refine horder.map fun l' _ hl' => ?_
  rwa [hl', Log.append_empty]

/-- The log of a server: its anchor, and behind it its ports if ports are drawn. -/
def LogsServer (drawn : Bool) (server : Device) (l : Log) (p : Placement) : Prop :=
  ∃ l', l = ⟨[(server.serverDeclaration, p.node)], [], []⟩ ++ l' ∧ p.key = server.id ∧
    Each (LogsPort false server.id p.node) (if drawn then server.ports else []) l' p.ports

/-- The log of equipment around servers. -/
def LogsPeer (d : Device) (l : Log) (p : Placement) : Prop :=
  l = ⟨[(d.peerDeclaration, p.node)], [], []⟩ ∧ p.key = d.id ∧ p.ports = []

/-- The log of servers, one after the other, and of the equipment around them. -/
def LogsServers (drawn : Bool) (servers peers : List Device) (l : Log) (ps : List Placement) :
    Prop :=
  ∃ l₁ l₂ placed around, l = l₁ ++ l₂ ∧ ps = placed ++ around ∧
    Each (LogsServer drawn) servers l₁ placed ∧ Each LogsPeer peers l₂ around

theorem LogsServer.places {drawn : Bool} {server : Device} {l : Log} {p : Placement}
    (h : LogsServer drawn server l p) : Places false l [p] := by
  obtain ⟨key, node, ports⟩ := p
  obtain ⟨l', rfl, rfl, hports⟩ := h
  exact Places.single_append (d := server.serverDeclaration) rfl (.of_each hports)

theorem LogsPeer.places {d : Device} {l : Log} {p : Placement} (h : LogsPeer d l p) :
    Places false l [p] := by
  obtain ⟨key, node, ports⟩ := p
  obtain ⟨rfl, rfl, rfl⟩ := h
  exact Places.single (d := d.peerDeclaration) rfl node

theorem Places.of_eachServer {drawn : Bool} {servers : List Device} {l : Log}
    {placed : List Placement} (h : Each (LogsServer drawn) servers l placed) :
    Places false l placed := by
  induction h with
  | nil => exact .nil
  | cons h _ ih => exact h.places.append ih

theorem Places.of_eachPeer {peers : List Device} {l : Log} {around : List Placement}
    (h : Each LogsPeer peers l around) : Places false l around := by
  induction h with
  | nil => exact .nil
  | cons h _ ih => exact h.places.append ih

theorem draws_server {needs : List String} (server : Device) (options : RenderOptions) :
    Draws needs (server.drawServer options) (LogsServer options.includePorts server) := by
  refine Draws.inCluster (Style.isPrintable_cluster none) ?_
  refine (Draws.declare (d := server.serverDeclaration) Style.isPrintable_anchor).bind
    fun l anchor hl => ?_
  have hanchor : anchor ∈ l.ids ++ needs := by simp [hl, Log.ids]
  refine draws_portsIf
    (P := Each (LogsPort false server.id anchor)
      (if options.includePorts then server.ports else []))
    (fun hdrawn => ?_) (fun hnone => ?_)
    fun l' ports hports => .pure ⟨l', by rw [hl, Log.append_empty], rfl, hports⟩
  · rw [if_pos (Bool.and_eq_true_iff.1 hdrawn).1]
    exact server.draws_portFrame hanchor
  · have hempty : (if options.includePorts then server.ports else []) = [] := by
      cases hdrawn : options.includePorts with
      | false => rfl
      | true => simpa [hdrawn] using hnone
    rw [hempty]
    exact .nil

theorem draws_eachServer {needs : List String} (servers peers : List Device)
    (options : RenderOptions) :
    Draws needs (drawServers servers peers options)
      (LogsServers options.includePorts servers peers) := by
  refine (Draws.mapM fun s _ => draws_server s options).bind fun l₁ placed hplaced => ?_
  have hids : ∀ id ∈ placed.map (·.node), id ∈ l₁.ids ++ needs := by
    intro id hid
    obtain ⟨p, hp, rfl⟩ := List.mem_map.1 hid
    exact List.mem_append_left _ ((Places.of_eachServer hplaced).node_mem_ids hp)
  refine (draws_orderChain hids).bind fun l' _ hl' => ?_
  have hpeers : Draws (l'.ids ++ (l₁.ids ++ needs)) (peers.mapM Device.drawPeer)
      (Each LogsPeer peers) :=
    Draws.mapM fun d _ => (Draws.declare (d := d.peerDeclaration)
      (Style.isPrintable_peer d.type)).map fun _ _ hl => ⟨hl, rfl, rfl⟩
  refine hpeers.map fun l₂ around haround => ⟨l₁, l₂, placed, around, ?_, rfl, hplaced, haround⟩
  rw [hl', Log.empty_append]

theorem draws_servers {needs : List String} (servers peers : List Device)
    (options : RenderOptions) :
    Draws needs (drawServers servers peers options) (Places false) := by
  refine (draws_eachServer servers peers options).mono fun l ps h => ?_
  obtain ⟨l₁, l₂, placed, around, rfl, rfl, hplaced, haround⟩ := h
  exact (Places.of_eachServer hplaced).append (.of_eachPeer haround)

-- ════════════════════════════════════════════════════════════════════════
-- Racks
-- ════════════════════════════════════════════════════════════════════════

theorem Device.draws_placeAt {needs : List String} (d : Device) {node : String}
    (hnode : node ∈ needs) (options : RenderOptions) :
    Draws needs (d.placeAt node options) fun l p =>
      p.key = d.id ∧ p.node = node ∧ PlacesPorts true d.id node l p.ports :=
  draws_portsIf (fun _ => d.draws_linkedPorts hnode) (fun _ => .nil) fun l _ h =>
    .pure ⟨rfl, rfl, l.append_empty.symm ▸ h⟩

/-- The log of devices whose nodes are declared before any of their ports. -/
theorem Places.of_each_placed {nodes : List (Device × String)} {l : Log} {placed : List Placement}
    (h : Each (fun (x : Device × String) l p =>
      p.key = x.1.id ∧ p.node = x.2 ∧ PlacesPorts true x.1.id x.2 l p.ports) nodes l placed) :
    placed.map (fun p => (p.key, p.node)) = nodes.map (fun x => (x.1.id, x.2)) ∧
      l.owners = [] ∧ l.ports = placed.flatMap Placement.portEntries ∧
      l.edges = placed.flatMap Placement.portLinks ∧ l.warnings = [] := by
  induction h with
  | nil => exact ⟨rfl, rfl, rfl, rfl, rfl⟩
  | @cons x l p nodes ls placed h _ ih =>
    obtain ⟨hkey, hnode, hports⟩ := h
    obtain ⟨hplaced, howners, hls, hedges, hwarnings⟩ := ih
    refine ⟨?_, ?_, ?_, ?_, ?_⟩
    · rw [List.map_cons, List.map_cons, hplaced, hkey, hnode]
    · rw [Log.owners_append, hports.owners, howners]
      rfl
    · rw [Log.ports_append, hports.ports, hls, List.flatMap_cons, Placement.portEntries, hkey]
    · rw [Log.edges_append, hports.edges, hedges, List.flatMap_cons, Placement.portLinks, hnode]
      rfl
    · rw [Log.warnings_append, hports.warnings, hwarnings]
      rfl

/-- The log of a rack's devices before their ports. -/
theorem owners_of_each_declared {entity : EntityType} (hplace : entity.hasPlace = true)
    {devices : List Device} {l : Log} {nodes : List String}
    (h : Each (fun (d : Device) l node => l = ⟨[(d.declaration entity true, node)], [], []⟩)
      devices l nodes) :
    l.owners = (devices.zip nodes).map (fun x => (x.1.id, x.2)) ∧ l.ids = nodes ∧
      l.ports = [] ∧ l.edges = [] ∧ l.warnings = [] := by
  have hport : entity ≠ .port := fun h => by simp [h, EntityType.hasPlace] at hplace
  induction h with
  | nil => exact ⟨rfl, rfl, rfl, rfl, rfl⟩
  | @cons d l node devices ls nodes h _ ih =>
    obtain ⟨howners, hids, hports, hedges, hwarnings⟩ := ih
    subst h
    refine ⟨?_, ?_, ?_, hedges, hwarnings⟩
    · rw [Log.owners_append, howners]
      simp [Log.owners, Device.declaration, hplace, Call.entry]
    · rw [Log.ids_append, hids]
      rfl
    · rw [Log.ports_append, hports]
      simp [Log.ports, Device.declaration, hport]

theorem draws_rack {needs : List String} (rack : Rack) {entity : EntityType}
    (hplace : entity.hasPlace = true) (options : RenderOptions) :
    Draws needs (rack.draw entity options) fun l r =>
      Places true l r.devices := by
  refine Draws.inCluster (Style.isPrintable_cluster none) ?_
  refine (Draws.declare (d := rack.anchor) Style.isPrintable_anchor).bind fun l anchor hl => ?_
  refine (Draws.mapM fun d _ => Draws.declare (d := d.declaration entity true)
    (Style.isPrintable_device d.type)).bind fun l₁ nodes hnodes => ?_
  obtain ⟨howners, hids, hports, hedges, hwarnings⟩ := owners_of_each_declared hplace hnodes
  have hplaceAt : Draws (l₁.ids ++ (l.ids ++ needs))
      (((Rack.displayOrder rack.devices).zip nodes).mapM fun x =>
        x.1.placeAt x.2 options) _ :=
    Draws.mapM fun x hx => x.1.draws_placeAt
      (List.mem_append_left _ (hids ▸ (List.of_mem_zip hx).2)) options
  refine hplaceAt.bind fun l₂ placed hplaced => ?_
  obtain ⟨hkeys, howners₂, hports₂, hedges₂, hwarnings₂⟩ := Places.of_each_placed hplaced
  -- all devices are declared before any of their ports, but each half is in the order of `placed`
  have hplaces : Places true (l₁ ++ l₂) placed := by
    constructor
    · rw [Log.owners_append, howners, howners₂, hkeys, List.append_nil]
    · rw [Log.ports_append, hports, hports₂, List.nil_append]
    · rw [Log.edges_append, hedges, hedges₂, List.nil_append]
      rfl
    · rw [Log.warnings_append, hwarnings, hwarnings₂]
      rfl
  -- the chain runs over the anchor, the devices and the ports, which are all declared by now
  have hchain : ∀ id ∈ anchor :: (nodes ++ placed.flatMap fun p => p.ports.map Prod.snd),
      id ∈ l₂.ids ++ (l₁.ids ++ (l.ids ++ needs)) := by
    intro id hid
    rcases List.mem_cons.1 hid with rfl | hid
    · simp [hl, Log.ids]
    rcases List.mem_append.1 hid with hid | hid
    · simp [hids, hid]
    · obtain ⟨p, hp, hid⟩ := List.mem_flatMap.1 hid
      obtain ⟨port, hport, rfl⟩ := List.mem_map.1 hid
      have hentry : (Port.key p.key port.1, port.2) ∈ l₂.ports := by
        rw [hports₂]
        exact List.mem_flatMap.2 ⟨p, hp, List.mem_map.2 ⟨port, hport, rfl⟩⟩
      exact List.mem_append_left _ (Log.mem_ids_of_mem_ports hentry)
  refine (draws_orderChain hchain).map fun l₃ _ hl₃ => ?_
  rw [hl₃, Log.append_empty, hl]
  exact hplaces.cons_other rfl fun h => EntityType.noConfusion h

theorem draws_racks {needs : List String} (racks : List Rack) {entity : EntityType}
    (hplace : entity.hasPlace = true) (options : RenderOptions) :
    Draws needs (drawRacks racks entity options) fun l rs =>
      Places true l (rs.flatMap (·.devices)) := by
  refine (Draws.mapM fun rack _ => draws_rack rack hplace options).mono fun l rs h => ?_
  induction h with
  | nil => exact .nil
  | cons h _ ih => exact h.append ih

theorem draws_rackDiagram {needs : List String} (site : Option Site) (racks : List Rack)
    {entity : EntityType} (hplace : entity.hasPlace = true) (options : RenderOptions) :
    Draws needs (drawRackDiagram site racks entity options) (Places true) := by
  cases site with
  | none =>
    refine (draws_racks racks hplace options).bind fun l drawn hl => ?_
    refine (draws_sideBySide _).map fun l' _ hl' => ?_
    rwa [hl', Log.append_empty]
  | some s =>
    refine (Draws.inCluster (Style.isPrintable_cluster _)
      (draws_racks racks hplace options)).bind fun l drawn hl => ?_
    refine (draws_sideBySide _).map fun l' _ hl' => ?_
    rwa [hl', Log.append_empty]

end InfraDiagram

import InfraDiagram.Proofs.Attachments
import InfraDiagram.Proofs.DeviceKeys
import InfraDiagram.Proofs.PortLinks
import InfraDiagram.Proofs.Precedence
import InfraDiagram.Proofs.Spacing

/-!
# Where the links of ports start

The link of a port says where it starts by the id of the server and the name of the port, and this
is looked up again like any other token. If the ids of servers and the keys of ports do not collide,
it comes back to the port: servers and ports stand at their own keys before the first other node is
declared, and no node that is declared later takes the key of a port.

## Main definitions

- `PortsApart` — servers and equipment whose ids leave the keys of ports alone
- `IsPortNode` — the node that was drawn for a port
- `StartsAtPort` — a link that starts there

## Main statements

- `find?_enterAll_of_nodup` — entries under distinct keys stay at their own
- `LogsServers.exists_port` — the server and the node of every port
- `startsAtPort_of_generate` — the links of all ports
-/

namespace InfraDiagram

open Dot

-- ════════════════════════════════════════════════════════════════════════
-- Entries that stay
-- ════════════════════════════════════════════════════════════════════════

/-- An entry moves only when its own key is declared again. -/
theorem Canvas.Entered.find?_of_ne {m m' : NodeMap} {key k : String} {ref r : NodeRef}
    (he : Entered m key ref m') (hm : m.keys.Nodup) (h : m.find? k = some r) (hne : k ≠ key) :
    m'.find? k = some r := by
  have hmem := NodeMap.mem_of_find?_eq_some h
  refine (NodeMap.find?_eq_some_iff (he.nodup_keys hm)).2 ?_
  cases he with
  | free _ hperm => exact hperm.mem_iff.2 (List.mem_cons_of_mem _ hmem)
  | displacing hfind _ _ _ _ hperm =>
    rcases List.mem_cons.1 ((NodeMap.erase_perm hm hfind).mem_iff.1 hmem) with heq | hrest
    · exact absurd (congrArg Prod.fst heq) hne
    · exact hperm.mem_iff.2 (by simp [hrest])
  | numbered _ _ _ _ hperm => exact hperm.mem_iff.2 (List.mem_cons_of_mem _ hmem)

theorem find?_enterAll_of_ne {m : NodeMap} (hm : m.keys.Nodup) {calls : List Call} {k : String}
    {r : NodeRef} (h : m.find? k = some r) (hne : ∀ call ∈ calls, call.1.key ≠ k) :
    (enterAll m calls).find? k = some r := by
  induction calls generalizing m with
  | nil => exact h
  | cons call calls ih =>
    rw [List.forall_mem_cons] at hne
    have he := Canvas.enter_cases m call.1.key (Canvas.refOf call.1 call.2)
    exact ih (he.nodup_keys hm) (he.find?_of_ne hm h (Ne.symm hne.1)) hne.2

/-- An entry under a new key stands at this key. -/
theorem Canvas.Entered.perm_of_notMem {m m' : NodeMap} {key : String} {ref : NodeRef}
    (he : Entered m key ref m') (h : key ∉ m.keys) : m'.entries.Perm ((key, ref) :: m.entries) := by
  have hnone := NodeMap.find?_eq_none_iff.2 h
  cases he with
  | free _ hperm => exact hperm
  | displacing hfind => simp [hnone] at hfind
  | numbered hfind => simp [hnone] at hfind

/-- Under distinct new keys, no key has a number. -/
theorem keys_enterAll_perm {m : NodeMap} {calls : List Call}
    (h : (m.keys ++ calls.map fun call => call.1.key).Nodup) :
    (enterAll m calls).keys.Perm (m.keys ++ calls.map fun call => call.1.key) := by
  induction calls generalizing m with
  | nil => simp [enterAll]
  | cons call calls ih =>
    have hnew : call.1.key ∉ m.keys := fun hmem =>
      (List.nodup_append.1 h).2.2 _ hmem _ (by simp) rfl
    have hkeys := (Canvas.enter_cases m call.1.key
      (Canvas.refOf call.1 call.2)).perm_of_notMem hnew |>.map Prod.fst
    have hmoved : (m.keys ++ (call :: calls).map fun call => call.1.key).Perm
        ((Canvas.enter m call.1.key (Canvas.refOf call.1 call.2)).keys ++
          calls.map fun call => call.1.key) := by
      rw [List.map_cons]
      exact List.perm_middle.trans (hkeys.symm.append_right _)
    exact (ih (hmoved.nodup_iff.1 h)).trans hmoved.symm

/-- Among declarations under distinct keys each has its own key, and keeps it while no other node is
    declared under it. -/
theorem find?_enterAll_of_nodup {calls later : List Call}
    (h : (calls.map fun call => call.1.key).Nodup) {call : Call} (hcall : call ∈ calls)
    (hlater : ∀ other ∈ later, other.1.key ≠ call.1.key) :
    (enterAll .empty (calls ++ later)).find? call.1.key =
      some (Canvas.refOf call.1 call.2) := by
  obtain ⟨before, after, rfl⟩ := List.append_of_mem hcall
  rw [List.map_append, List.map_cons] at h
  have hbefore : (enterAll .empty before).keys.Perm (before.map fun call => call.1.key) :=
    keys_enterAll_perm (m := NodeMap.empty) (List.nodup_append.1 h).1
  have hm := nodup_keys_enterAll nodup_keys_empty before
  have hnew : call.1.key ∉ (enterAll .empty before).keys := fun hmem =>
    (List.nodup_append.1 h).2.2 _ (hbefore.mem_iff.1 hmem) _ (by simp) rfl
  have he := Canvas.enter_cases (enterAll .empty before) call.1.key (Canvas.refOf call.1 call.2)
  have hown := (NodeMap.find?_eq_some_iff (he.nodup_keys hm)).2
    ((he.perm_of_notMem hnew).mem_iff.2 List.mem_cons_self)
  rw [List.append_assoc, List.cons_append, enterAll_append, enterAll_cons]
  refine find?_enterAll_of_ne (he.nodup_keys hm) hown (List.forall_mem_append.2 ⟨?_, hlater⟩)
  intro other hother heq
  exact (List.nodup_cons.1 (List.nodup_append.1 h).2.1).1 (heq ▸ List.mem_map_of_mem hother)

-- ════════════════════════════════════════════════════════════════════════
-- Servers and their ports
-- ════════════════════════════════════════════════════════════════════════

/-- The keys of the ports of a server. -/
def Device.portKeys (server : Device) : List String :=
  server.ports.map fun p => Port.key server.id p.name

/-- Servers and the equipment around them whose ids leave the keys of ports alone: the ids of
    servers are distinct and no placeholders, the keys of all ports are distinct, and no id is one
    of these keys. -/
structure PortsApart (servers peers : List Device) : Prop where
  ids : (servers.map (·.id)).Nodup
  named : ∀ server ∈ servers, isPlaceholder server.id = false
  ports : (servers.flatMap Device.portKeys).Nodup
  apart : ∀ d ∈ servers ++ peers, d.id ∉ servers.flatMap Device.portKeys

instance (servers peers : List Device) : Decidable (PortsApart servers peers) :=
  decidable_of_iff
    ((servers.map (·.id)).Nodup ∧ (∀ server ∈ servers, isPlaceholder server.id = false) ∧
      (servers.flatMap Device.portKeys).Nodup ∧
      ∀ d ∈ servers ++ peers, d.id ∉ servers.flatMap Device.portKeys)
    ⟨fun ⟨ids, named, ports, apart⟩ => ⟨ids, named, ports, apart⟩,
      fun h => ⟨h.ids, h.named, h.ports, h.apart⟩⟩

/-- The keys of servers and ports are distinct, in the order in which they are declared. -/
theorem PortsApart.nodup_keys {servers peers : List Device} (h : PortsApart servers peers) :
    (servers.flatMap fun server => server.id :: server.portKeys).Nodup := by
  have hperm := List.flatMap_append_perm servers (fun server => [server.id]) Device.portKeys
  rw [← List.map_eq_flatMap] at hperm
  refine hperm.nodup_iff.1 (List.nodup_append.2 ⟨h.ids, h.ports, ?_⟩)
  rintro id hid key hkey rfl
  obtain ⟨server, hserver, rfl⟩ := List.mem_map.1 hid
  exact h.apart server (List.mem_append_left _ hserver) hkey

/-- What each item logs under given keys, the whole traversal logs one behind the other. -/
theorem Each.map_key {α β : Type} {R : α → Log → β → Prop} {f : α → List String}
    (hR : ∀ x l y, R x l y → l.calls.map (fun call => call.1.key) = f x) {xs : List α} {l : Log}
    {ys : List β} (h : Each R xs l ys) :
    l.calls.map (fun call => call.1.key) = xs.flatMap f := by
  induction h with
  | nil => rfl
  | cons hx _ ih => rw [Log.calls_append, List.map_append, hR _ _ _ hx, ih, List.flatMap_cons]

/-- Each item of a traversal has its result in the same place, and its log is part of the whole. -/
theorem Each.exists_getElem? {α β : Type} {R : α → Log → β → Prop} {xs : List α} {l : Log}
    {ys : List β} (h : Each R xs l ys) {i : Nat} {x : α} (hx : xs[i]? = some x) :
    ∃ l' y, ys[i]? = some y ∧ R x l' y ∧ l'.calls ⊆ l.calls := by
  induction h generalizing i with
  | nil => simp at hx
  | @cons first l y xs ls ys hfirst _ ih =>
    cases i with
    | zero =>
      cases hx
      exact ⟨l, y, rfl, hfirst, List.subset_append_left _ _⟩
    | succ i =>
      obtain ⟨l', y', hy, hR, hsub⟩ := ih hx
      exact ⟨l', y', hy, hR, List.Subset.trans hsub (List.subset_append_right _ _)⟩

theorem LogsServer.map_key {server : Device} {l : Log} {p : Placement}
    (h : LogsServer true server l p) :
    l.calls.map (fun call => call.1.key) = server.id :: server.portKeys := by
  obtain ⟨l', rfl, -, hports⟩ := h
  have hkeys := hports.map_key (f := fun p => [Port.key server.id p.name])
    (by rintro p l port ⟨-, rfl⟩; rfl)
  rw [if_pos rfl, ← List.map_eq_flatMap] at hkeys
  rw [Log.calls_append, List.map_append, hkeys]
  rfl

/-- The `i`-th port of the `k`-th server was drawn as a node. -/
structure DrawsPort (calls : List Call) (places : List Placement) (k i : Nat) (server : Device)
    (p : Port) (id : String) : Prop where
  place : ∃ place, places[k]? = some place ∧ place.key = server.id ∧
    (server.serverDeclaration, place.node) ∈ calls ∧ place.ports[i]? = some (p.name, id)
  declared : (p.declaration server.id, id) ∈ calls

theorem exists_drawsPort {servers : List Device} {l : Log} {placed : List Placement}
    (h : Each (LogsServer true) servers l placed) {k i : Nat} {server : Device} {p : Port}
    (hserver : servers[k]? = some server) (hp : server.ports[i]? = some p) :
    ∃ id, DrawsPort l.calls placed k i server p id := by
  obtain ⟨l₁, place, hplace, ⟨l₂, rfl, hkey, hports⟩, hsub⟩ := h.exists_getElem? hserver
  rw [if_pos rfl] at hports
  obtain ⟨l₃, port, hport, ⟨hname, rfl⟩, hsub'⟩ := hports.exists_getElem? hp
  obtain ⟨name, id⟩ := port
  obtain rfl : name = p.name := hname
  exact ⟨id, ⟨place, hplace, hkey, hsub (by simp), hport⟩,
    hsub (by simpa using .inr (hsub' (by simp)))⟩

/-- A server whose key is its own is the first device under it. -/
theorem isFirst_of_nodup {calls later : List Call} (h : (calls.map fun call => call.1.key).Nodup)
    {d : Declaration} {id : String} (hmem : (d, id) ∈ calls) (hdevice : d.entity.isDevice = true) :
    IsFirst (calls ++ later) d.key id := by
  obtain ⟨before, after, rfl⟩ := List.append_of_mem hmem
  refine ⟨before, d, after ++ later, by simp, hdevice, rfl, fun call hcall hkey => ?_⟩
  rw [List.map_append, List.map_cons] at h
  exact absurd hkey ((List.nodup_append.1 h).2.2 _ (List.mem_map_of_mem hcall) _ (by simp))

theorem keys_of_peers {peers : List Device} {l : Log} {around : List Placement}
    (h : Each LogsPeer peers l around) :
    l.calls.map (fun call => call.1.key) = peers.map (·.id) := by
  have hkeys := h.map_key (f := fun d => [d.id]) fun d l p hl => by rw [hl.1]; rfl
  rwa [← List.map_eq_flatMap] at hkeys

/-- Where a port is looked for, its server and the port are found, and the port is the only node
    that was declared under its key. -/
structure FindsPort (c : Canvas) (calls : List Call) (server : Device) (p : Port) (id : String) :
    Prop where
  anchor : ∃ node, c.lookupDevice server.id = some node
  entry : c.nodeMap.find? (Port.key server.id p.name) =
    some (Canvas.refOf (p.declaration server.id) id)
  only : ∀ call ∈ calls, call.1.key = Port.key server.id p.name →
    call = (p.declaration server.id, id)

theorem LogsServers.exists_port {servers peers : List Device} {l : Log} {places : List Placement}
    {c : Canvas} (h : LogsServers true servers peers l places) (hapart : PortsApart servers peers)
    (hc : c.Accounts l.calls) (hmap : c.nodeMap = enterAll .empty l.calls) {k i : Nat}
    {server : Device} {p : Port} (hserver : servers[k]? = some server)
    (hp : server.ports[i]? = some p) :
    ∃ id, DrawsPort l.calls places k i server p id ∧ FindsPort c l.calls server p id := by
  obtain ⟨l₁, l₂, placed, around, rfl, rfl, hplaced, haround⟩ := h
  rw [Log.calls_append] at hc hmap ⊢
  obtain ⟨id, ⟨place, hplace, hkey, hanchor, hport⟩, hdeclared⟩ :=
    exists_drawsPort hplaced hserver hp
  have hnodup : (l₁.calls.map fun call => call.1.key).Nodup := by
    have hkeys := hplaced.map_key fun s l p (hl : LogsServer true s l p) => hl.map_key
    exact hkeys ▸ hapart.nodup_keys
  have hportKey : Port.key server.id p.name ∈ servers.flatMap Device.portKeys :=
    List.mem_flatMap.2 ⟨server, List.mem_of_getElem? hserver,
      List.mem_map.2 ⟨p, List.mem_of_getElem? hp, rfl⟩⟩
  have hothers : ∀ other ∈ l₂.calls, other.1.key ≠ Port.key server.id p.name := by
    intro other hother heq
    have hmem : other.1.key ∈ peers.map (·.id) :=
      keys_of_peers haround ▸ List.mem_map_of_mem hother
    obtain ⟨d, hd, hid⟩ := List.mem_map.1 hmem
    exact hapart.apart d (List.mem_append_right _ hd) (hid.trans heq ▸ hportKey)
  have hfirst : IsFirst (l₁.calls ++ l₂.calls) server.id place.node :=
    isFirst_of_nodup hnodup hanchor rfl
  refine ⟨id, ⟨⟨place, ?_, hkey, List.mem_append_left _ hanchor, hport⟩,
    List.mem_append_left _ hdeclared⟩, ⟨_, hc.lookupDevice_eq_some_iff.2 hfirst⟩, ?_, ?_⟩
  · obtain ⟨hk, -⟩ := List.getElem?_eq_some_iff.1 hplace
    rw [List.getElem?_append_left hk, hplace]
  · rw [hmap]
    exact find?_enterAll_of_nodup hnodup hdeclared hothers
  · intro call hcall heq
    rcases List.mem_append.1 hcall with hcall | hcall
    · exact List.inj_on_of_nodup_map hnodup hcall hdeclared heq
    · exact absurd heq (hothers call hcall)

/-- The servers of a document and the equipment around them are what its groundwork draws. -/
theorem exists_logsServers {m : Mapping} {options : RenderOptions} {w : Groundwork}
    {servers peers : List Device} (h : (Plan.serverDetails m options).groundwork = .ok w)
    (hservers : Device.serversIn m = .ok servers) (hpeers : Device.peersIn m = .ok peers) :
    ∃ es, run es .blank = w.canvas ∧
      LogsServers options.includePorts servers peers (logOf es .blank) w.places := by
  obtain ⟨hscene, hdrawn⟩ := Plan.groundwork_eq_ok h
  obtain ⟨servers', peers', hservers', hpeers', hnodes, -⟩ := exists_servers_of_scene hscene
  rw [hservers] at hservers'
  rw [hpeers] at hpeers'
  cases hservers'
  cases hpeers'
  have hdraws : Draws [] (drawServers servers peers options)
      (LogsServers options.includePorts servers peers) := draws_eachServer servers peers options
  obtain ⟨es, hrun, -, hlog⟩ := hdraws .blank (by simp)
  rw [hnodes] at hdrawn
  change drawServers servers peers options .blank = _ at hdrawn
  rw [hdrawn] at hrun hlog
  exact ⟨es, hrun.symm, hlog⟩

-- ════════════════════════════════════════════════════════════════════════
-- Links
-- ════════════════════════════════════════════════════════════════════════

/-- The node that was drawn for the `i`-th port of the `k`-th server: it stands there among the
    places, it is the one node under the key of the port, and the node map has it there. -/
structure IsPortNode (g : Generated) (places : List Placement) (k i : Nat) (server : Device)
    (p : Port) (id : String) : Prop where
  place : ∃ place, places[k]? = some place ∧ place.key = server.id ∧
    place.ports[i]? = some (p.name, id)
  drawn : id ∈ g.diagram.graph.declaredIds
  only : ∀ n ∈ g.diagram.graph.allNodes, n.id = id ↔ n.key = Port.key server.id p.name
  entry : g.nodeMap.find? (Port.key server.id p.name) =
    some (Canvas.refOf (p.declaration server.id) id)

/-- The link of a port is drawn as one visible edge from the node of this port, where nothing is
    printed, to the place of the end that the port names. -/
structure StartsAtPort (g : Generated) (w : Groundwork) (k i : Nat) (server : Device) (p : Port)
    (target : Endpoint) (e : Edge) : Prop where
  outcome : w.portOutcome server p i = ⟨some e, []⟩
  visible : e.attrs.isInvisible = false
  source : IsPortNode g w.places k i server p e.source
  bare : e.attrs.get? "taillabel" = none
  target : ∃ a, target.place w.scene.resolver w.canvas = .ok a ∧ e.targetEnd = a.drawn

/-- The ids of servers with ports are looked up as they are. -/
theorem isTrimmed_id_of_port {m : Mapping} {servers : List Device}
    (h : Device.serversIn m = .ok servers) {server : Device} (hserver : server ∈ servers)
    (hports : server.ports ≠ []) : Text.IsTrimmed server.id := by
  obtain ⟨entities, -, h⟩ := exists_of_bind_eq_ok h
  have hparent : Text.IsSpaceless "server" := by decide
  have hread : ∀ (x : (Value × Path) × Nat) (d : Device),
      Device.ofValue x.1.1 "server" x.2 x.1.2 "server" = .ok d →
        d.ports ≠ [] → Text.IsTrimmed d.id :=
    fun _ _ hd => Device.isTrimmed_id hd hparent
  exact forall_of_mapM hread h server hserver hports

/-- A link whose ends are found is drawn as one edge. -/
theorem portOutcome_of_place {w : Groundwork} {server : Device} {p : Port} {i : Nat}
    {link : Connection} (hlink : p.link? server i = some link) {source target : Attachment}
    (hsource : link.source.place w.scene.resolver w.canvas = .ok source)
    (htarget : link.target.place w.scene.resolver w.canvas = .ok target) :
    ∃ e, w.portOutcome server p i = ⟨some e, []⟩ ∧ e.attrs.isInvisible = false ∧
      e.sourceEnd = source.drawn ∧ e.targetEnd = target.drawn := by
  have hedge : link.edge? w.scene.resolver w.canvas =
      some ⟨source.id, target.id, endLabels link.edgeAttrs source target⟩ := by
    rw [Connection.edge?, hsource, htarget]
  have hproblems : link.problems w.scene.resolver w.canvas = [] := by
    rw [Connection.problems, Endpoint.problems, Endpoint.problems, hsource, htarget]
    rfl
  obtain ⟨htail, hhead⟩ := get?_endLabels (link.get?_edgeAttrs (by decide))
    (link.get?_edgeAttrs (by decide)) source target
  refine ⟨⟨source.id, target.id, endLabels link.edgeAttrs source target⟩, ?_,
    (isInvisible_endLabels ..).trans link.isInvisible_edgeAttrs,
    congrArg (EdgeEnd.mk source.id) htail, congrArg (EdgeEnd.mk target.id) hhead⟩
  rw [Groundwork.portOutcome, hlink]
  simp [hedge, hproblems]

theorem FindsPort.place_eq {c : Canvas} {calls : List Call} {server : Device} {p : Port}
    {id : String} (h : FindsPort c calls server p id) (htrim : Text.IsTrimmed server.id)
    (hname : isPlaceholder server.id = false) (r : Resolver) :
    Endpoint.place ⟨server.id, some p.name⟩ r c = .ok ⟨id, none⟩ := by
  obtain ⟨node, hnode⟩ := h.anchor
  have heq : Text.trim server.id = server.id := htrim
  have hresolve : r.resolve server.id c = .ok ⟨node, server.id⟩ := by
    rw [← heq] at hnode
    rw [Resolver.resolve_of_lookupDevice hname hnode, heq]
  rw [Endpoint.place_eq (e := ⟨server.id, some p.name⟩) rfl hresolve, h.entry]
  rfl

/-- The node that is found for a port is the one that was drawn for it. -/
theorem DrawsPort.isPortNode {g : Generated} {c : Canvas} {calls : List Call}
    {places : List Placement} {k i : Nat} {server : Device} {p : Port} {id : String}
    (h : DrawsPort calls places k i server p id) (hfinds : FindsPort c calls server p id)
    (hc : c.Accounts calls) (hmap : g.nodeMap = c.nodeMap)
    (hnodes : (g.diagram.graph.allNodes.map fun n => (n.key, n.id)).Perm
      (c.allNodes.map fun n => (n.key, n.id))) : IsPortNode g places k i server p id := by
  have hcalls := hnodes.trans hc.nodes
  obtain ⟨place, hplace, hkey, -, hport⟩ := h.place
  refine ⟨⟨place, hplace, hkey, hport⟩, ?_, fun n hn => ?_, hmap ▸ hfinds.entry⟩
  · obtain ⟨n, hn, heq⟩ := List.mem_map.1 (hcalls.mem_iff.2 (List.mem_map_of_mem h.declared))
    exact List.mem_map.2 ⟨n, hn, congrArg Prod.snd heq⟩
  · have hmem : (n.key, n.id) ∈ g.diagram.graph.allNodes.map fun n => (n.key, n.id) :=
      List.mem_map_of_mem hn
    obtain ⟨call, hcall, heq⟩ := List.mem_map.1 (hcalls.mem_iff.1 hmem)
    obtain ⟨hcallKey, hcallId⟩ := Prod.mk.inj heq
    rw [← hcallKey, ← hcallId]
    constructor
    · intro hid
      rw [hc.call_unique hcall h.declared hid]
      rfl
    · intro hportKey
      rw [hfinds.only call hcall hportKey]

/-- **Where the links of ports start.** In server details that are drawn with ports, and where no id
    of a server or of equipment gets in the way, the link of a port whose other end is found is one
    edge that starts at the node of this port. These edges follow those of the records, server by
    server and port by port. -/
theorem startsAtPort_of_generate {m : Mapping} {options : RenderOptions} {g : Generated}
    {servers peers : List Device} (h : generate (.mapping m) options = .ok g)
    (hkind : g.kind = .serverDetails) (hports : options.includePorts = true)
    (hservers : Device.serversIn m = .ok servers) (hpeers : Device.peersIn m = .ok peers)
    (hapart : PortsApart servers peers) :
    ∃ w, (Plan.serverDetails m options).groundwork = .ok w ∧
      g.diagram.graph.edges =
        (recordsOf .serverDetails m).filterMap (fun r => (w.outcome r).edge) ++
          servers.flatMap (fun server => server.ports.zipIdx.filterMap fun (p, i) =>
            (w.portOutcome server p i).edge) ∧
      ∀ k i server p, servers[k]? = some server → server.ports[i]? = some p →
        ∀ target found, p.connectedTo = some target →
          w.scene.resolver.resolve target.device w.canvas = .ok found →
          ∃ e, StartsAtPort g w k i server p target e := by
  obtain ⟨m', w, es, l, hm, hcourse⟩ := exists_course h
  cases hm
  have hgroundwork := hcourse.groundwork
  rw [hkind] at hgroundwork
  obtain ⟨servers', hsettled⟩ := hcourse.portLinksSettled hkind
  obtain rfl : servers = servers' := Except.ok.inj (hservers.symm.trans hsettled.read)
  refine ⟨w, hgroundwork, hsettled.edges,
    fun k i server p hserver hp target found htarget hfound => ?_⟩
  obtain ⟨es', hrun, hlogs⟩ := exists_logsServers hgroundwork hservers hpeers
  rw [hports] at hlogs
  have hc : w.canvas.Accounts (logOf es' .blank).calls := hrun ▸ Canvas.accounts_run es'
  have hmap : w.canvas.nodeMap = enterAll .empty (logOf es' .blank).calls :=
    hrun ▸ nodeMap_run es' _
  obtain ⟨id, hdrawn, hfinds⟩ := hlogs.exists_port hapart hc hmap hserver hp
  have hplace := hfinds.place_eq (isTrimmed_id_of_port hservers (List.mem_of_getElem? hserver)
    (List.ne_nil_of_mem (List.mem_of_getElem? hp))) (hapart.named server
    (List.mem_of_getElem? hserver)) w.scene.resolver
  obtain ⟨a, ha⟩ : ∃ a, target.place w.scene.resolver w.canvas = .ok a := by
    rw [Endpoint.place, hfound]
    exact ⟨_, rfl⟩
  have hlink : ∃ link, p.link? server i = some link ∧ link.source = ⟨server.id, some p.name⟩ ∧
      link.target = target := by
    simp [Port.link?, htarget]
  obtain ⟨link, hlink, hsource, rfl⟩ := hlink
  obtain ⟨e, houtcome, hvisible, hsourceEnd, htargetEnd⟩ :=
    portOutcome_of_place hlink (hsource ▸ hplace) ha
  have hsourceId : e.source = id := congrArg EdgeEnd.node hsourceEnd
  exact ⟨e, houtcome, hvisible, hsourceId ▸ hdrawn.isPortNode hfinds hc hcourse.nodeMap
    (hcourse.nodes.trans hcourse.accounts.nodes.symm), congrArg EdgeEnd.printed hsourceEnd,
    a, ha, htargetEnd⟩

/-- Two servers with ports of one name, and equipment of which one has the id of another and one the
    id of a server. -/
def crossedPorts : Mapping :=
  [("servers", .list [
      .mapping [("id", .text " s "), ("ports", .list [
        .mapping [("name", .text "p"), ("connected_to", .text "sw")], .text "q"])],
      .mapping [("id", .text "t"), ("ports", .list [
        .mapping [("name", .text "p"), ("peer", .mapping [
          ("device", .text "s"), ("port", .text "q")])]])]]),
    ("devices", .list [.text "sw", .text "sw", .text "s"]),
    ("connections", .list [.mapping [("from", .text "t"), ("to", .text "sw")]])]

theorem startsAtPort_crossedPorts : ∃ g servers peers,
    generate (.mapping crossedPorts) .standard = .ok g ∧
    g.diagram.graph.edges =
      [⟨"t", "sw", .empty⟩, ⟨"\"s:p\"", "sw", .empty⟩, ⟨"\"t:p\"", "\"s:q\"", .empty⟩] ∧
    g.nodeMap.keys = ["s", "s#2", "s:p", "s:q", "sw", "sw#2", "t", "t:p"] ∧
    Device.serversIn crossedPorts = .ok servers ∧ Device.peersIn crossedPorts = .ok peers ∧
    PortsApart servers peers ∧ ∃ w, (Plan.serverDetails crossedPorts .standard).groundwork = .ok w ∧
      ∀ k i server p, servers[k]? = some server → server.ports[i]? = some p →
        ∀ target found, p.connectedTo = some target →
          w.scene.resolver.resolve target.device w.canvas = .ok found →
          ∃ e, StartsAtPort g w k i server p target e := by
  have hresult : ((generate (.mapping crossedPorts) .standard).toOption.map fun g =>
      (g.kind, g.diagram.graph.edges, g.nodeMap.keys)) = some (.serverDetails,
        [⟨"t", "sw", .empty⟩, ⟨"\"s:p\"", "sw", .empty⟩, ⟨"\"t:p\"", "\"s:q\"", .empty⟩],
        ["s", "s#2", "s:p", "s:q", "sw", "sw#2", "t", "t:p"]) := by decide +kernel
  have hdevices : ((Device.serversIn crossedPorts).toOption.map fun servers =>
      (Device.peersIn crossedPorts).toOption.map fun peers => decide (PortsApart servers peers)) =
        some (some true) := by decide +kernel
  obtain ⟨g, hg, hshown⟩ := exists_of_toOption_map hresult
  obtain ⟨servers, hservers, hdevices⟩ := exists_of_toOption_map hdevices
  obtain ⟨peers, hpeers, hapart⟩ := exists_of_toOption_map hdevices
  simp only [Prod.mk.injEq] at hshown
  obtain ⟨hkind, hedges, hkeys⟩ := hshown
  obtain ⟨w, hw, -, hstarts⟩ := startsAtPort_of_generate hg hkind rfl hservers hpeers
    (of_decide_eq_true hapart)
  exact ⟨g, servers, peers, hg, hedges, hkeys, hservers, hpeers, of_decide_eq_true hapart, w, hw,
    hstarts⟩

end InfraDiagram

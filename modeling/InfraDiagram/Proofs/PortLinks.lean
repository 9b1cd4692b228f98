import InfraDiagram.Proofs.Records

/-!
# Links of ports

In server details a port may say itself what it is connected to. If what it says names a device, its
link becomes an edge or is reported, as that of a connection record. If it does not, nothing comes
of it: unlike a record, such a port is passed over without a word.

## Main definitions

- `Mapping.peer?` — what a port says that it is connected to
- `Value.namesDevice` — a value that can be read as the end of a connection
- `HasPort` — a port of a server, where it stands in a document
- `Groundwork.portOutcome` — what becomes of the link of a port
- `PortLinksSettled` — a result that settles the link of every port, and has no other edges

## Main statements

- `portLinksSettled_of_generate` — what becomes of the links of ports in every result
- `not_accountedAt_hollow` — a port whose link is lost
-/

namespace InfraDiagram

open Dot

-- ════════════════════════════════════════════════════════════════════════
-- What ports say
-- ════════════════════════════════════════════════════════════════════════

/-- What a port says that it is connected to: the value of the first field for it that is there,
    even if this is null. -/
def Mapping.peer? (port : Mapping) : Option Value :=
  ["connected_to", "connectedTo", "peer"].findSome? port.get?

/-- A value that names a device: a text, a number, or a mapping with one of them in a field for
    the device. -/
def Value.namesDevice : Value → Bool
  | .text _ | .number _ => true
  | .mapping m => ["device", "id", "node"].any fun key =>
    match Mapping.get? m key with
    | some (.text _) | some (.number _) => true
    | _ => false
  | _ => false

/-- Exactly the values that name a device are read as ends. -/
theorem Endpoint.isSome_ofValue? (v : Value) : (ofValue? v).isSome = v.namesDevice := by
  cases v with
  | mapping m =>
    rw [ofValue?, Option.isSome_map, Value.namesDevice, List.isSome_findSome?]
    congr 1
    funext key
    cases Mapping.get? m key with
    | none => rfl
    | some v => cases v <;> rfl
  | _ => rfl

/-- A port has a link if what it says names a device. -/
theorem Port.isSome_connectedTo {p : Mapping} {index : Nat} {path : Path} {port : Port}
    (h : ofValue (.mapping p) index path = .ok port) :
    port.connectedTo.isSome = p.peer?.any Value.namesDevice := by
  cases h
  change (p.peer?.bind Endpoint.ofValue?).isSome = _
  cases p.peer? with
  | none => rfl
  | some v => exact Endpoint.isSome_ofValue? v

-- ════════════════════════════════════════════════════════════════════════
-- Ports in documents
-- ════════════════════════════════════════════════════════════════════════

/-- The servers of a document that gives them in detail. -/
def Device.serversIn (doc : Mapping) : Except StructureError (List Device) := do
  let entities ← Field.oneOrMany doc "server" "servers" .root
  entities.zipIdx.mapM fun ((v, path), i) => ofValue v "server" i path "server"

/-- The equipment around the servers of a document. -/
def Device.peersIn (doc : Mapping) : Except StructureError (List Device) :=
  Device.listIn doc ["devices", "peers"] "peer" .root "device"

/-- The `k`-th server of a document is a mapping, and so is its `i`-th port. -/
def HasPort (doc : Mapping) (k i : Nat) (port : Mapping) : Prop :=
  ∃ entities server path, Field.oneOrMany doc "server" "servers" .root = .ok entities ∧
    entities[k]? = some (.mapping server, path) ∧
    (itemsUnder server (aliasOf server ["ports", "interfaces"]))[i]? = some (.mapping port)

/-- A port that stands in a document is among the ports of its server. -/
theorem HasPort.exists_port {doc port : Mapping} {k i : Nat} (h : HasPort doc k i port)
    {servers : List Device} (hservers : Device.serversIn doc = .ok servers) :
    ∃ server p, servers[k]? = some server ∧ server.ports[i]? = some p ∧
      p.connectedTo.isSome = port.peer?.any Value.namesDevice := by
  obtain ⟨entities, m, path, hentities, hserver, hport⟩ := h
  rw [Device.serversIn, hentities] at hservers
  have hnumbered : entities.zipIdx[k]? = some ((.mapping m, path), k) := by
    simp [List.getElem?_zipIdx, hserver]
  obtain ⟨server, hk, hread⟩ := exists_getElem?_of_mapM hservers hnumbered
  obtain ⟨ports, hports, hread⟩ := exists_of_bind_eq_ok hread
  cases hread
  obtain ⟨⟨items, listPath⟩, hitems, hports⟩ := exists_of_bind_eq_ok hports
  obtain ⟨rfl, -⟩ := Prod.mk.inj (Field.items_of_listAlias hitems)
  have hposition : (itemsUnder m (aliasOf m ["ports", "interfaces"])).zipIdx[i]? =
      some (.mapping port, i) := by
    simp [List.getElem?_zipIdx, hport]
  obtain ⟨p, hi, hp⟩ := exists_getElem?_of_mapM hports hposition
  exact ⟨_, p, hk, hi, Port.isSome_connectedTo hp⟩

/-- The scene draws the servers of the document and the equipment around them, and has the
    connections that the ports of these servers declare. -/
theorem exists_servers_of_scene {doc : Mapping} {options : RenderOptions} {scene : Scene}
    (h : (Plan.serverDetails doc options).scene = .ok scene) :
    ∃ servers peers, Device.serversIn doc = .ok servers ∧ Device.peersIn doc = .ok peers ∧
      scene.nodes = drawServers servers peers options ∧ scene.portLinks = portLinks servers := by
  have hstages : Stages doc options .serverDetails scene := .of_scene h
  cases hstages with
  | serverDetails hentities hservers hpeers hcabling =>
    exact ⟨_, _, by rw [Device.serversIn, hentities]; exact hservers, hpeers, rfl, rfl⟩

-- ════════════════════════════════════════════════════════════════════════
-- Outcomes
-- ════════════════════════════════════════════════════════════════════════

/-- An outcome that is seen: an edge and no problem, or problems at a place and no edge. -/
def Outcome.AccountedAt (o : Outcome) (context : String) : Prop :=
  o.edge.isSome = true ∧ o.diagnostics = [] ∨
    o.edge = none ∧ o.diagnostics ≠ [] ∧ ∀ d ∈ o.diagnostics, d.context? = some context

/-- A connection becomes an edge or is reported, and not both. -/
theorem Connection.accountedAt (conn : Connection) (resolver : Resolver) (c : Canvas) :
    Outcome.AccountedAt ⟨conn.edge? resolver c, conn.problems resolver c⟩ conn.context := by
  have hcontext := conn.context?_problems resolver c
  unfold edge? problems Endpoint.problems at hcontext ⊢
  cases hsource : conn.source.place resolver c with
  | error reason => exact .inr ⟨rfl, by simp, by simpa [hsource] using hcontext⟩
  | ok source =>
    cases htarget : conn.target.place resolver c with
    | error reason => exact .inr ⟨rfl, by simp, by simpa [hsource, htarget] using hcontext⟩
    | ok target => exact .inl ⟨rfl, rfl⟩

/-- Where problems with the link of a port are reported. -/
def Port.linkContext (server : Device) (position : Nat) : String :=
  server.id ++ ".ports[" ++ toString position ++ "].connected_to"

namespace Groundwork

variable (w : Groundwork) (server : Device) (p : Port) (position : Nat)

/-- What becomes of the link of a port on the nodes that were drawn. -/
def portOutcome : Outcome :=
  ⟨(p.link? server position).bind (·.edge? w.scene.resolver w.canvas),
    (p.link? server position).toList.flatMap (·.problems w.scene.resolver w.canvas)⟩

theorem portOutcome_of_none (h : p.connectedTo = none) :
    w.portOutcome server p position = ⟨none, []⟩ := by
  simp [portOutcome, Port.link?, h]

theorem accountedAt_portOutcome (h : p.connectedTo.isSome = true) :
    (w.portOutcome server p position).AccountedAt (Port.linkContext server position) := by
  obtain ⟨peer, hpeer⟩ := Option.isSome_iff_exists.1 h
  have hlink : ∃ link, p.link? server position = some link ∧
      link.context = Port.linkContext server position := by
    simp [Port.link?, hpeer, Port.linkContext]
  obtain ⟨link, hlink, hcontext⟩ := hlink
  rw [portOutcome, hlink, ← hcontext]
  simpa using link.accountedAt w.scene.resolver w.canvas

end Groundwork

theorem filterMap_portLinks (servers : List Device) (w : Groundwork) :
    (portLinks servers).filterMap (·.edge? w.scene.resolver w.canvas) =
      servers.flatMap fun server => server.ports.zipIdx.filterMap fun (p, i) =>
        (w.portOutcome server p i).edge := by
  simp only [portLinks, List.filterMap_flatMap, List.filterMap_filterMap]
  rfl

theorem flatMap_portLinks (servers : List Device) (w : Groundwork) :
    (portLinks servers).flatMap (·.problems w.scene.resolver w.canvas) =
      servers.flatMap fun server => server.ports.zipIdx.flatMap fun (p, i) =>
        (w.portOutcome server p i).diagnostics := by
  simp only [portLinks, List.flatMap_assoc, List.filterMap_eq_flatMap_toList]
  rfl

-- ════════════════════════════════════════════════════════════════════════
-- All ports together
-- ════════════════════════════════════════════════════════════════════════

/-- What becomes of the links of ports in a document that gives servers in detail. -/
structure PortLinksSettled (m : Mapping) (g : Generated) (w : Groundwork)
    (servers : List Device) : Prop where
  read : Device.serversIn m = .ok servers
  /-- The edges of the records, then those of the links, server by server and port by port. -/
  edges : g.diagram.graph.edges =
    (recordsOf .serverDetails m).filterMap (fun r => (w.outcome r).edge) ++
      servers.flatMap fun server => server.ports.zipIdx.filterMap fun (p, i) =>
        (w.portOutcome server p i).edge
  /-- The problems with nodes and records, then those with links in the same order. -/
  diagnostics : g.diagnostics = w.canvas.diagnostics ++
    ((recordsOf .serverDetails m).flatMap Record.faults ++
      ((recordsOf .serverDetails m).flatMap w.looseEnds ++
        servers.flatMap fun server => server.ports.zipIdx.flatMap fun (p, i) =>
          (w.portOutcome server p i).diagnostics))
  outcomes : ∀ k i port, HasPort m k i port → ∃ server p,
    servers[k]? = some server ∧ server.ports[i]? = some p ∧
      if port.peer?.any Value.namesDevice then
        (w.portOutcome server p i).AccountedAt (Port.linkContext server i)
      else w.portOutcome server p i = ⟨none, []⟩

theorem Course.portLinksSettled {m : Mapping} {options : RenderOptions} {g : Generated}
    {w : Groundwork} {es : List Event} {l : Log} (h : Course m options g w es l)
    (hkind : g.kind = .serverDetails) : ∃ servers, PortLinksSettled m g w servers := by
  have hscene := (Plan.groundwork_eq_ok h.groundwork).1
  rw [hkind] at hscene
  obtain ⟨servers, -, hservers, -, -, hlinks⟩ := exists_servers_of_scene hscene
  refine ⟨servers, hservers, ?_, ?_, fun k i port hport => ?_⟩
  · rw [h.edges, h.edges_canvas, h.edges_records, hlinks, filterMap_portLinks, hkind]
    rfl
  · rw [h.diagnostics, h.problems_records, hlinks, flatMap_portLinks, hkind]
  · obtain ⟨server, p, hserver, hp, hsome⟩ := hport.exists_port hservers
    refine ⟨server, p, hserver, hp, ?_⟩
    split_ifs with hnames
    · exact w.accountedAt_portOutcome server p i (hsome.trans hnames)
    · refine w.portOutcome_of_none server p i (Option.not_isSome_iff_eq_none.1 ?_)
      rwa [hsome]

/-- **What becomes of the links of ports.** In server details, the link of a port becomes one
    visible edge, or is reported at the port, if the first field for it that the port has names a
    device. If this field holds anything else, neither happens. There are no other visible edges
    than those of records and those of ports. -/
theorem portLinksSettled_of_generate {doc : Value} {options : RenderOptions} {g : Generated}
    (h : generate doc options = .ok g) (hkind : g.kind = .serverDetails) :
    ∃ m w servers, doc = .mapping m ∧
      (Plan.serverDetails m options).groundwork = .ok w ∧ PortLinksSettled m g w servers := by
  obtain ⟨m, w, es, l, hm, hcourse⟩ := exists_course h
  obtain ⟨servers, hsettled⟩ := hcourse.portLinksSettled hkind
  have hgroundwork := hcourse.groundwork
  rw [hkind] at hgroundwork
  exact ⟨m, w, servers, hm, hgroundwork, hsettled⟩

/-- A server whose ports are connected to a switch, to nothing that is there, and to nothing. -/
def patched : Mapping :=
  [("server", .mapping [("id", .text "s"), ("ports", .list [
      .mapping [("name", .text "p"), ("connected_to", .text "sw")],
      .mapping [("name", .text "q"), ("peer", .mapping [("device", .text "x")])],
      .mapping [("name", .text "r"), ("connectedTo", .null), ("peer", .text "sw")]])]),
    ("devices", .list [.text "sw"])]

theorem portLinksSettled_patched : ∃ g, generate (.mapping patched) .standard = .ok g ∧
    g.diagram.graph.edges = [⟨"\"s:p\"", "sw", .empty⟩] ∧
    g.diagnostics =
      [.unresolvedEndpoint "x" Unresolved.noMatch.reason "s.ports[1].connected_to"] ∧
    ∃ m w servers, .mapping patched = Value.mapping m ∧
      (Plan.serverDetails m .standard).groundwork = .ok w ∧ PortLinksSettled m g w servers := by
  have hresult : ((generate (.mapping patched) .standard).toOption.map fun g =>
      (g.kind, g.diagram.graph.edges, g.diagnostics)) =
      some (.serverDetails, [⟨"\"s:p\"", "sw", .empty⟩],
        [.unresolvedEndpoint "x" Unresolved.noMatch.reason "s.ports[1].connected_to"]) := by
    decide +kernel
  obtain ⟨g, hg, hshown⟩ := exists_of_toOption_map hresult
  simp only [Prod.mk.injEq] at hshown
  obtain ⟨hkind, hedges, hdiagnostics⟩ := hshown
  exact ⟨g, hg, hedges, hdiagnostics, portLinksSettled_of_generate hg hkind⟩

/-- A server with a port that is connected to a mapping without a device. -/
def hollow : Mapping :=
  [("servers", .list [.mapping [("id", .text "s"), ("ports", .list [
    .mapping [("name", .text "p"), ("connected_to", .mapping [])]])]])]

/-- The port says that it is connected, but there is neither an edge nor a report. -/
theorem not_accountedAt_hollow :
    HasPort hollow 0 0 [("name", .text "p"), ("connected_to", .mapping [])] ∧
      ∃ g, generate (.mapping hollow) .standard = .ok g ∧ g.kind = .serverDetails ∧
        g.diagram.graph.edges = [] ∧ g.diagnostics = [] := by
  refine ⟨⟨_, _, _, rfl, rfl, rfl⟩, ?_⟩
  have hresult : ((generate (.mapping hollow) .standard).toOption.map fun g =>
      (g.kind, g.diagram.graph.edges, g.diagnostics)) = some (.serverDetails, [], []) := by
    decide +kernel
  obtain ⟨g, hg, hshown⟩ := exists_of_toOption_map hresult
  simp only [Prod.mk.injEq] at hshown
  exact ⟨g, hg, hshown⟩

end InfraDiagram

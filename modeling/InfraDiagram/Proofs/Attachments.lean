import InfraDiagram.Proofs.Runs

/-!
# Where connections attach

An end of a connection that names a port belongs at the node of that port of its own device, or at
the device with the port printed beside it. Ports are found by their keys alone, so the end is
where it belongs exactly if the node under the key is such a port.

## Main definitions

- `portNodes` — the nodes that were drawn for a port of a device
- `KeepsToOwnPort` — an end that is where it belongs
- `FindsOwnPort` — a node map that holds nothing else under the key of a port
- `Uncontested` — a graph in which no other node may get the key of a port
- `Attached` — an edge whose ends are where they belong if they find their own ports

## Main statements

- `keepsToOwnPort_iff_of_generate` — when the ends of connections are where they belong
- `not_keepsToOwnPort_shadowed` — a device whose id looks like a port draws the end to itself
-/

namespace InfraDiagram

open Dot

/-- An end of an edge: its node, and the text that is printed there. -/
structure EdgeEnd where
  node : String
  printed : Option String
  deriving DecidableEq, Repr

def Dot.Edge.sourceEnd (e : Edge) : EdgeEnd :=
  ⟨e.source, e.attrs.get? "taillabel"⟩

def Dot.Edge.targetEnd (e : Edge) : EdgeEnd :=
  ⟨e.target, e.attrs.get? "headlabel"⟩

/-- The ends of a connection with those of its edge. -/
def Connection.ends (conn : Connection) (e : Edge) : List (Endpoint × EdgeEnd) :=
  [(conn.source, e.sourceEnd), (conn.target, e.targetEnd)]

def printedPort (port : String) : String :=
  "\"" ++ Text.escapeLabel port ++ "\""

def Attachment.drawn (a : Attachment) : EdgeEnd :=
  ⟨a.id, a.portLabel.map printedPort⟩

/-- Each end of an edge prints its own port and not that of the other end. -/
theorem get?_endLabels {attrs : Attrs} (htail : attrs.get? "taillabel" = none)
    (hhead : attrs.get? "headlabel" = none) (source target : Attachment) :
    (endLabels attrs source target).get? "taillabel" = source.drawn.printed ∧
      (endLabels attrs source target).get? "headlabel" = target.drawn.printed := by
  obtain ⟨s, _ | p⟩ := source <;> obtain ⟨t, _ | q⟩ := target <;>
    simp [endLabels, Attachment.drawn, Attrs.text, Attrs.get?_set, htail, hhead, printedPort]

/-- The ends of an edge are at the places of the connection's ends. -/
theorem Connection.ends_drawn {conn : Connection} {resolver : Resolver} {c : Canvas} {e : Edge}
    (h : conn.edge? resolver c = some e) :
    ∀ t ∈ conn.ends e, ∃ a, t.1.place resolver c = .ok a ∧ t.2 = a.drawn := by
  unfold edge? at h
  split at h
  · rename_i source target hs ht
    cases h
    obtain ⟨htail, hhead⟩ := get?_endLabels (conn.get?_edgeAttrs (by decide))
      (conn.get?_edgeAttrs (by decide)) source target
    intro t hmem
    simp only [ends, List.mem_cons, List.not_mem_nil, or_false] at hmem
    rcases hmem with rfl | rfl
    · exact ⟨source, hs, congrArg (EdgeEnd.mk source.id) htail⟩
    · exact ⟨target, ht, congrArg (EdgeEnd.mk target.id) hhead⟩
  · cases h

/-- The nodes that were drawn for the ports of a given name of the entity at a node. -/
def portNodes (places : List Placement) (node port : String) : List String :=
  (places.filter fun p => p.node = node).flatMap fun p =>
    (p.ports.filter fun drawn => drawn.1 = port).map Prod.snd

theorem mem_portNodes {places : List Placement} {node port id : String} :
    id ∈ portNodes places node port ↔ ∃ p ∈ places, p.node = node ∧ (port, id) ∈ p.ports := by
  simp [portNodes, and_assoc]

/-- An end is where it belongs: at the node of the port of its own entity, with nothing printed, or
    at the entity with the port printed, if the port has no node. -/
def KeepsToOwnPort (places : List Placement) (node port : String) (t : EdgeEnd) : Prop :=
  (∃ id ∈ portNodes places node port, t = ⟨id, none⟩) ∨
    portNodes places node port = [] ∧ t = ⟨node, some (printedPort port)⟩

/-- The node map holds a port of the entity under the key at which it is looked for, if the entity
    has one, and nothing if not. -/
def FindsOwnPort (m : NodeMap) (places : List Placement) (found : Resolved) (port : String) :
    Prop :=
  match m.find? (Port.key found.key port) with
  | some ref => ref.graphNodeId ∈ portNodes places found.graphId port
  | none => portNodes places found.graphId port = []

/-- The end is at the entity that was declared under the key, and only ports of that entity were
    declared under keys that may have come to be the key of the port. -/
def Uncontested (g : Graph) (places : List Placement) (found : Resolved) (port : String) : Prop :=
  (found.key, found.graphId) ∈ g.allNodes.map (fun n => (n.key, n.id)) ∧
    ∀ n ∈ g.allNodes, Canvas.HeldAt n.key (Port.key found.key port) →
      n.id ∈ portNodes places found.graphId port

/-- An end that names a port goes to what is found under the key of the port. -/
theorem Endpoint.place_eq {e : Endpoint} {resolver : Resolver} {c : Canvas} {found : Resolved}
    {port : String} (hport : e.port = some port)
    (hfound : resolver.resolve e.device c = .ok found) :
    e.place resolver c = .ok (match c.nodeMap.find? (Port.key found.key port) with
      | some ref => ⟨ref.graphNodeId, none⟩
      | none => ⟨found.graphId, some port⟩) := by
  rw [place, hfound]
  simp only [Except.map, hport, Canvas.lookup]
  cases c.nodeMap.find? (Port.key found.key port) <;> rfl

theorem keepsToOwnPort_iff {e : Endpoint} {resolver : Resolver} {c : Canvas} {found : Resolved}
    {port : String} (hport : e.port = some port)
    (hfound : resolver.resolve e.device c = .ok found) {a : Attachment}
    (ha : e.place resolver c = .ok a) (places : List Placement) :
    KeepsToOwnPort places found.graphId port a.drawn ↔
      FindsOwnPort c.nodeMap places found port := by
  rw [Endpoint.place_eq hport hfound, Except.ok.injEq] at ha
  subst ha
  unfold FindsOwnPort
  cases c.nodeMap.find? (Port.key found.key port) with
  | some ref => simp [KeepsToOwnPort, Attachment.drawn]
  | none => simp [KeepsToOwnPort, Attachment.drawn]

namespace Course

variable {m : Mapping} {options : RenderOptions} {g : Generated} {w : Groundwork}
  {es : List Event} {l : Log}

theorem calls_eq (h : Course m options g w es l) : (logOf es .blank).calls = l.calls := by
  rw [h.log, Log.calls_append, List.append_nil]

/-- The node of an entity was declared under the entity's key. -/
theorem exists_call_of_place (h : Course m options g w es l) {p : Placement}
    (hp : p ∈ w.places) :
    ∃ call ∈ (logOf es .blank).calls, call.1.key = p.key ∧ call.2 = p.node := by
  have hentry : (p.key, p.node) ∈ l.owners := h.places.owners ▸ List.mem_map.2 ⟨p, hp, rfl⟩
  obtain ⟨call, hcall, heq⟩ := List.mem_map.1 hentry
  refine ⟨call, ?_, congrArg Prod.fst heq, congrArg Prod.snd heq⟩
  exact h.calls_eq ▸ List.mem_of_mem_filter hcall

/-- The node of a port was declared under the key of the port. -/
theorem exists_call_of_port (h : Course m options g w es l) {p : Placement}
    (hp : p ∈ w.places) {port id : String} (hport : (port, id) ∈ p.ports) :
    ∃ call ∈ (logOf es .blank).calls, call.1.key = Port.key p.key port ∧ call.2 = id := by
  have hentry : (Port.key p.key port, id) ∈ l.ports :=
    h.places.ports ▸ List.mem_flatMap.2 ⟨p, hp, List.mem_map.2 ⟨_, hport, rfl⟩⟩
  obtain ⟨call, hcall, heq⟩ := List.mem_map.1 hentry
  refine ⟨call, ?_, congrArg Prod.fst heq, congrArg Prod.snd heq⟩
  exact h.calls_eq ▸ List.mem_of_mem_filter hcall

/-- A declaration is a node of the result. -/
theorem mem_nodes_iff (h : Course m options g w es l) {key id : String} :
    (key, id) ∈ g.diagram.graph.allNodes.map (fun n => (n.key, n.id)) ↔
      ∃ call ∈ (logOf es .blank).calls, call.1.key = key ∧ call.2 = id := by
  rw [h.nodes.mem_iff, List.mem_map]
  simp only [Prod.mk.injEq]

/-- Where nothing else may get the key of a port, the port is found if it was drawn. -/
theorem findsOwnPort_of_uncontested (h : Course m options g w es l) {found : Resolved}
    {port : String} (huncontested : Uncontested g.diagram.graph w.places found port) :
    FindsOwnPort g.nodeMap w.places found port := by
  obtain ⟨hown, honly⟩ := huncontested
  have hcovers : Covers g.nodeMap (logOf es .blank).calls := h.nodeMap ▸ h.accounts.entries
  unfold FindsOwnPort
  cases hfind : g.nodeMap.find? (Port.key found.key port) with
  | some ref =>
    -- What is found was declared under a key that came to be this one, so it is an own port.
    obtain ⟨call, hcall, hheld, href⟩ :=
      hcovers.exists_call (NodeMap.mem_of_find?_eq_some hfind)
    have hnode := h.mem_nodes_iff.2 ⟨call, hcall, rfl, rfl⟩
    obtain ⟨n, hn, heq⟩ := List.mem_map.1 hnode
    obtain ⟨hkey, hid⟩ := Prod.mk.inj heq
    have hport := honly n hn (hkey ▸ hheld)
    rw [hid] at hport
    have hrefId : ref.graphNodeId = call.2 := congrArg NodeRef.graphNodeId href
    change ref.graphNodeId ∈ _
    rwa [hrefId]
  | none =>
    rw [List.eq_nil_iff_forall_not_mem]
    intro id hid
    obtain ⟨p, hp, hnode, hport⟩ := mem_portNodes.1 hid
    -- The port's own entity is the one at the node, so its key is the one that is looked for.
    obtain ⟨owner, howner, hownerKey, hownerId⟩ := h.exists_call_of_place hp
    obtain ⟨found', hfound, hfoundKey, hfoundId⟩ := h.mem_nodes_iff.1 hown
    have hsame := h.accounts.call_unique howner hfound (by rw [hownerId, hfoundId, hnode])
    obtain ⟨call, hcall, hcallKey, -⟩ := h.exists_call_of_port hp hport
    refine NodeMap.find?_eq_none_iff.1 hfind ?_
    rw [h.nodeMap, ← h.canvas, nodeMap_run]
    refine mem_keys_enterAll (.inr ⟨call, hcall, ?_⟩)
    rw [hcallKey, ← hownerKey, hsame, hfoundKey]

end Course

/-- The edge of a connection is visible. Each end of it that names a port is where it belongs
    exactly if the node map holds a port of its own entity, or nothing if there is none, under the
    key of the port; and so it is wherever no other node may have got that key. -/
def Attached (g : Generated) (w : Groundwork) (conn : Connection) (e : Edge) : Prop :=
  e ∈ g.diagram.graph.edges ∧
    ∀ t ∈ conn.ends e, ∀ port found, t.1.port = some port →
      w.scene.resolver.resolve t.1.device w.canvas = .ok found →
      (KeepsToOwnPort w.places found.graphId port t.2 ↔
          FindsOwnPort g.nodeMap w.places found port) ∧
        (Uncontested g.diagram.graph w.places found port →
          KeepsToOwnPort w.places found.graphId port t.2)

/-- **Where connections attach.** The ends of every connection that is drawn are where they belong
    exactly if they find their own ports. -/
theorem keepsToOwnPort_iff_of_generate {doc : Value} {options : RenderOptions} {g : Generated}
    (h : generate doc options = .ok g) :
    ∃ m w, doc = .mapping m ∧ (Plan.ofKind (classifyMapping m) m options).groundwork = .ok w ∧
      ∀ conn ∈ w.connections, ∀ e, conn.edge? w.scene.resolver w.canvas = some e →
        Attached g w conn e := by
  obtain ⟨m, w, es, l, hm, hcourse⟩ := exists_course h
  refine ⟨m, w, hm, hcourse.kind ▸ hcourse.groundwork, fun conn hconn e he => ⟨?_, ?_⟩⟩
  · rw [hcourse.edges]
    exact List.mem_append_right _ (List.mem_filterMap.2 ⟨conn, hconn, he⟩)
  · intro t ht port found hport hfound
    obtain ⟨a, ha, hdrawn⟩ := Connection.ends_drawn he t ht
    have hiff := keepsToOwnPort_iff hport hfound ha w.places
    rw [← hdrawn, ← hcourse.nodeMap] at hiff
    exact ⟨hiff, fun huncontested => hiff.2 (hcourse.findsOwnPort_of_uncontested huncontested)⟩

/-- A server with a port that is drawn and a port that is not. -/
def loopback : Mapping :=
  [("server", .mapping [("id", .text "s"), ("ports", .list [.text "1"])]),
    ("connections", .list [.mapping [
      ("from", .mapping [("device", .text "s"), ("port", .text "1")]),
      ("to", .mapping [("device", .text "s"), ("port", .text "2")])]])]

theorem keepsToOwnPort_loopback : ∃ g, generate (.mapping loopback) .standard = .ok g ∧
    g.diagram.graph.edges = [⟨"\"s:1\"", "s", ⟨[("headlabel", "\"2\"")]⟩⟩] ∧
    ∃ m w, .mapping loopback = Value.mapping m ∧
      (Plan.ofKind (classifyMapping m) m .standard).groundwork = .ok w ∧
      ∀ conn ∈ w.connections, ∀ e, conn.edge? w.scene.resolver w.canvas = some e →
        Attached g w conn e := by
  have hedges : ((generate (.mapping loopback) .standard).toOption.map fun g =>
      g.diagram.graph.edges) = some [⟨"\"s:1\"", "s", ⟨[("headlabel", "\"2\"")]⟩⟩] := by
    decide +kernel
  cases hg : generate (.mapping loopback) .standard with
  | error e => simp [hg, Except.toOption] at hedges
  | ok g =>
    refine ⟨g, rfl, ?_, keepsToOwnPort_iff_of_generate hg⟩
    simpa [hg, Except.toOption] using hedges

/-- A device whose id is the key of another device's port. -/
def shadowed : Mapping :=
  [("topology", .mapping [("devices", .list [.text "a", .text "a:b", .text "c"])]),
    ("connections", .list [.mapping [
      ("from", .mapping [("device", .text "a"), ("port", .text "b")]), ("to", .text "c")]])]

/-- The port of the first device has no node, but the end that names it goes to the second device
    instead of the first, and the port is not printed. -/
theorem not_keepsToOwnPort_shadowed :
    (∃ g, generate (.mapping shadowed) .standard = .ok g ∧
      g.diagram.graph.edges = [⟨"\"a:b\"", "c", .empty⟩]) ∧
    ¬ ∀ w, (Plan.ofKind (classifyMapping shadowed) shadowed .standard).groundwork = .ok w →
      ∀ conn ∈ w.connections, ∀ e, conn.edge? w.scene.resolver w.canvas = some e →
        ∀ t ∈ conn.ends e, ∀ port found, t.1.port = some port →
          w.scene.resolver.resolve t.1.device w.canvas = .ok found →
          KeepsToOwnPort w.places found.graphId port t.2 := by
  have hedges : ((generate (.mapping shadowed) .standard).toOption.map fun g =>
      g.diagram.graph.edges) = some [⟨"\"a:b\"", "c", .empty⟩] := by decide +kernel
  have hfacts : ((Plan.ofKind (classifyMapping shadowed) shadowed .standard).groundwork.toOption.map
      fun w => (w.connections.map fun conn =>
        (conn.source, (conn.edge? w.scene.resolver w.canvas).map Edge.sourceEnd),
        (w.scene.resolver.resolve "a" w.canvas).toOption, portNodes w.places "a" "b")) =
      some ([(⟨"a", some "b"⟩, some ⟨"\"a:b\"", none⟩)], some ⟨"a", "a"⟩, []) := by
    decide +kernel
  constructor
  · cases hg : generate (.mapping shadowed) .standard with
    | error e => simp [hg, Except.toOption] at hedges
    | ok g => exact ⟨g, rfl, by simpa [hg, Except.toOption] using hedges⟩
  · intro hkeeps
    cases hw : (Plan.ofKind (classifyMapping shadowed) shadowed .standard).groundwork with
    | error e => simp [hw, Except.toOption] at hfacts
    | ok w =>
      simp only [hw, Except.toOption, Option.map_some, Option.some.injEq, Prod.mk.injEq,
        List.map_eq_singleton_iff, Option.map_eq_some_iff] at hfacts
      obtain ⟨⟨conn, hconn, hsource, e, he, hend⟩, hfound, hnone⟩ := hfacts
      cases hresolve : w.scene.resolver.resolve "a" w.canvas with
      | error reason => simp [hresolve] at hfound
      | ok found =>
        simp only [hresolve, Option.some.injEq] at hfound
        have hsourceEnd := hkeeps w hw conn (by simp [hconn]) e he (conn.source, e.sourceEnd)
          (by simp [Connection.ends]) "b" found (by rw [hsource]) (by rw [hsource, hresolve])
        rw [hfound, hend] at hsourceEnd
        rcases hsourceEnd with ⟨id, hid, -⟩ | ⟨-, hprinted⟩
        · simp [hnone] at hid
        · simp at hprinted

end InfraDiagram

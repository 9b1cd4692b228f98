import InfraDiagram.Proofs.Attachments
import InfraDiagram.Proofs.Listings

/-!
# Addressing devices

What the tokens of connections reach: the type of a listed device reaches the first node with its
id, and so does its id itself. Sites have types too, but no type of a site reaches anything; and a
token loses the white space around it, while an id may keep it.

## Main definitions

- `Endpoint.IsUnnamed` — an end whose token is no placeholder and no key
- `ReachesFirst`, `MissesSite` — what an end reaches that names the type of a device or a site
- `FallsBack` — what all ends of a document reach that name types
- `AnswersToId` — when a token that is the id of a device reaches its first node

## Main statements

- `typeFallback_of_generate` — what becomes of ends that name types
- `not_typeFallback_typedSites` — an end that names the type of a site
- `answersToId_of_generate` — what becomes of ends that name ids
- `not_answersToId_indented` — a device with white space before its id
-/

namespace InfraDiagram

open Dot

-- ════════════════════════════════════════════════════════════════════════
-- Tokens
-- ════════════════════════════════════════════════════════════════════════

namespace Resolver

variable {r : Resolver} {token : String} {c : Canvas}

/-- A token that is the id of a device reaches the first node of it. -/
theorem resolve_of_lookupDevice (htoken : isPlaceholder token = false) {id : String}
    (h : c.lookupDevice (Text.trim token) = some id) :
    r.resolve token c = .ok ⟨id, Text.trim token⟩ := by
  simp only [resolve, htoken, Bool.false_eq_true, if_false, h, Option.some_or]

/-- A token that is no key reaches what was drawn for the first candidate of this type. -/
theorem resolve_of_type (htoken : isPlaceholder token = false)
    (hdevice : c.lookupDevice (Text.trim token) = none) (hkey : c.lookup (Text.trim token) = none)
    {id type : String} (hfirst : (r.candidates.find? fun candidate =>
      candidate.2 == Text.trim token) = some (id, type)) :
    r.resolve token c = match c.lookupDevice id with
      | some node => .ok ⟨node, id⟩
      | none => .error .typeNotDrawn := by
  have hnone : (c.lookupDevice (Text.trim token)).or (c.lookup (Text.trim token)) = none := by
    rw [hdevice, hkey, Option.or_none]
  cases hid : c.lookupDevice id with
  | some node => simp only [resolve, htoken, Bool.false_eq_true, if_false, hnone, hfirst, hid]
  | none => simp only [resolve, htoken, Bool.false_eq_true, if_false, hnone, hfirst, hid]

theorem find?_ofDevices (listed : List Device) (type : String) :
    (ofDevices listed).candidates.find? (fun candidate => candidate.2 == type) =
      (listed.find? fun d => d.type == type).map fun d => (d.id, d.type) := by
  rw [ofDevices, List.find?_map]
  rfl

/-- A token that is no key reaches the first listed device of this type. -/
theorem resolve_ofDevices_of_type (htoken : isPlaceholder token = false)
    (hdevice : c.lookupDevice (Text.trim token) = none) (hkey : c.lookup (Text.trim token) = none)
    {listed : List Device} {d : Device} {node : String}
    (hfirst : listed.find? (fun d => d.type == Text.trim token) = some d)
    (hnode : c.lookupDevice d.id = some node) :
    (ofDevices listed).resolve token c = .ok ⟨node, d.id⟩ := by
  have hcandidate : ((ofDevices listed).candidates.find? fun candidate =>
      candidate.2 == Text.trim token) = some (d.id, d.type) := by
    rw [find?_ofDevices, hfirst, Option.map_some]
  rw [resolve_of_type htoken hdevice hkey hcandidate]
  simp only [hnode]

end Resolver

/-- A key that the node map does not have is not in the table of devices either. -/
theorem Canvas.Accounts.unknown {c : Canvas} {calls : List Call} (h : c.Accounts calls)
    (hmap : c.nodeMap = enterAll .empty calls) {key : String} (hkey : key ∉ c.nodeMap.keys) :
    c.lookupDevice key = none ∧ c.lookup key = none := by
  constructor
  · cases hid : c.lookupDevice key with
    | none => rfl
    | some id =>
      obtain ⟨call, hcall, -, -, hcallKey⟩ := h.exists_call_of_lookupDevice hid
      exact absurd (hmap ▸ mem_keys_enterAll (.inr ⟨call, hcall, hcallKey⟩)) hkey
  · rw [Canvas.lookup, NodeMap.find?_eq_none_iff.2 hkey]
    rfl

/-- An end whose token is no placeholder, and no key of the node map. -/
def Endpoint.IsUnnamed (e : Endpoint) (m : NodeMap) : Prop :=
  isPlaceholder e.device = false ∧ Text.trim e.device ∉ m.keys

-- ════════════════════════════════════════════════════════════════════════
-- Types of listed devices
-- ════════════════════════════════════════════════════════════════════════

/-- An end reaches the first node with the id of a device. It is a node of the device itself
    exactly if the device is the first one that was drawn with its id. -/
def ReachesFirst (drawn : List (Device × Call)) (r : Resolver) (c : Canvas) (token : String)
    (d : Device) : Prop :=
  ∃ x, drawn.find? (fun y => y.1.id == d.id) = some x ∧
    r.resolve token c = .ok ⟨x.2.2, d.id⟩ ∧ ((∃ y ∈ drawn, y.1 = d ∧ y.2.2 = x.2.2) ↔ x.1 = d)

/-- An end that names the type of a site is reported, although the site was drawn. -/
def MissesSite (g : Generated) (w : Groundwork) (conn : Connection) (e : Endpoint) (s : Site) :
    Prop :=
  (∃ p ∈ w.places, p.key = s.id) ∧ s.id ∈ g.nodeMap.keys ∧
    w.scene.resolver.resolve e.device w.canvas = .error .typeNotDrawn ∧
    .unresolvedEndpoint e.device Unresolved.typeNotDrawn.reason conn.context ∈ g.diagnostics

namespace Roster

variable {kind : Kind} {doc : Mapping} {calls : List Call} {listed : List Device}
  {drawn : List (Device × Call)} {c : Canvas} {token : String} {d : Device}

/-- A node in the roster belongs to one device. -/
theorem eq_of_node_eq (h : Roster kind doc calls listed drawn) (hc : c.Accounts calls)
    {x y : Device × Call} (hx : x ∈ drawn) (hy : y ∈ drawn) (heq : x.2.2 = y.2.2) : x = y := by
  have hids : (drawn.map fun x => x.2.2).Nodup := by
    have hfilter := List.Sublist.map Prod.snd (List.filter_sublist (l := calls)
      (p := fun call => call.1.entity.isDevice && listed.any (·.id == call.1.key)))
    rw [h.own, List.map_map] at hfilter
    exact hc.nodup_ids.sublist hfilter
  exact List.inj_on_of_nodup_map hids hx hy heq

/-- The first node with the id of a listed device, as the table of devices has it. -/
theorem exists_first (h : Roster kind doc calls listed drawn) (hc : c.Accounts calls)
    (hd : d ∈ listed) (hdrawn : ∃ x ∈ drawn, x.1.id = d.id) :
    ∃ x, drawn.find? (fun y => y.1.id == d.id) = some x ∧ x ∈ drawn ∧ x.1.id = d.id ∧
      c.lookupDevice d.id = some x.2.2 := by
  obtain ⟨x, hx⟩ : ∃ x, drawn.find? (fun y => y.1.id == d.id) = some x := by
    rw [← Option.isSome_iff_exists, List.find?_isSome]
    obtain ⟨x, hx, hid⟩ := hdrawn
    exact ⟨x, hx, by simp [hid]⟩
  refine ⟨x, hx, List.mem_of_find?_eq_some hx, by simpa using List.find?_some hx, ?_⟩
  rw [h.lookupDevice hc hd, hx]
  rfl

/-- A token whose name is no key reaches the first candidate of that type, if it was drawn. -/
theorem reachesFirst (h : Roster kind doc calls listed drawn) (hc : c.Accounts calls)
    (hmap : c.nodeMap = enterAll .empty calls) (htoken : isPlaceholder token = false)
    (hkey : Text.trim token ∉ c.nodeMap.keys)
    (hfirst : listed.find? (fun d => d.type == Text.trim token) = some d)
    (hdrawn : ∃ x ∈ drawn, x.1.id = d.id) :
    ReachesFirst drawn (.ofDevices listed) c token d := by
  obtain ⟨x, hx, hmem, -, htable⟩ :=
    h.exists_first hc (List.mem_of_find?_eq_some hfirst) hdrawn
  obtain ⟨hdevice, hlookup⟩ := hc.unknown hmap hkey
  refine ⟨x, hx, ?_, ?_⟩
  · exact Resolver.resolve_ofDevices_of_type htoken hdevice hlookup hfirst htable
  · constructor
    · rintro ⟨y, hy, rfl, hnode⟩
      exact congrArg Prod.fst (h.eq_of_node_eq hc hmem hy hnode.symm)
    · intro heq
      exact ⟨x, hmem, heq, rfl⟩

/-- A link end that names the type of a device has a node for it, unless its name is a key. -/
theorem exists_drawn_of_type (h : Roster kind doc calls listed drawn)
    (hmap : c.nodeMap = enterAll .empty calls)
    (himplied : ∀ n, implied? listed token = some n →
      ∃ call ∈ calls, call.1.entity.isDevice = true ∧ call.1.key = n.key)
    (htoken : isPlaceholder token = false) (hkey : Text.trim token ∉ c.nodeMap.keys)
    (hfirst : listed.find? (fun d => d.type == Text.trim token) = some d) :
    ∃ x ∈ drawn, x.1.id = d.id := by
  have hid : listed.reverse.find? (fun d => d.id == Text.trim token) = none := by
    -- a device with that id would have been drawn at the key
    by_contra hsome
    obtain ⟨other, hother⟩ := Option.ne_none_iff_exists'.1 hsome
    have hotherId : other.id = Text.trim token := by simpa using List.find?_some hother
    have hn : implied? listed token = _ := implied?_eq htoken
    rw [knownDevice?, hother, Option.some_or] at hn
    obtain ⟨call, hcall, -, hcallKey⟩ := himplied _ hn
    refine hkey (hmap ▸ mem_keys_enterAll (.inr ⟨call, hcall, ?_⟩))
    rw [hcallKey, ← hotherId]
  have hn : implied? listed token = _ := implied?_eq htoken
  rw [knownDevice?, hid, Option.none_or, hfirst] at hn
  obtain ⟨call, hcall, hdevice, hcallKey⟩ := himplied _ hn
  exact h.exists_drawn (List.mem_of_find?_eq_some hfirst) hcall hdevice hcallKey

/-- Every kind of document but one draws all devices that it lists. -/
theorem exists_drawn_of_mem (h : Roster kind doc calls listed drawn) (hkind : kind ≠ .links)
    (hd : d ∈ listed) : ∃ x ∈ drawn, x.1.id = d.id := by
  obtain ⟨x, hx, rfl⟩ := List.mem_map.1 ((h.all hkind).mem_iff.2 hd)
  exact ⟨x, hx, rfl⟩

end Roster

-- ════════════════════════════════════════════════════════════════════════
-- Types of sites
-- ════════════════════════════════════════════════════════════════════════

/-- The places of sites have their ids. -/
theorem keys_drawSites (sites : List Site) (c : Canvas) :
    (drawSites sites c).1.map (·.key) = sites.map (·.id) := by
  induction sites generalizing c with
  | nil => rfl
  | cons s sites ih =>
    have hcons : (drawSites (s :: sites) c).1 = ⟨s.id, (declare s.declaration c).1, []⟩ ::
        (drawSites sites (declare s.declaration c).2).1 := by
      rw [drawSites, List.mapM_cons]
      rfl
    rw [hcons, List.map_cons, List.map_cons, ih]

/-- Where no device was declared, the table of devices is empty. -/
theorem Canvas.Accounts.lookupDevice_eq_none {c : Canvas} {l : Log} (h : c.Accounts l.calls)
    (hnone : l.devices = []) (key : String) : c.lookupDevice key = none := by
  cases hid : c.lookupDevice key with
  | none => rfl
  | some id =>
    obtain ⟨call, hcall, -, hdevice, -⟩ := h.exists_call_of_lookupDevice hid
    have hmem : call ∈ l.devices := List.mem_filter.2 ⟨hcall, hdevice⟩
    rw [hnone] at hmem
    cases hmem

/-- A site topology draws its sites and no device. -/
theorem exists_sites {doc : Mapping} {w : Groundwork} (h : (Plan.sites doc).groundwork = .ok w) :
    ∃ sites es, Site.ofDocument doc = .ok sites ∧ w.scene.resolver = .ofSites sites ∧
      w.places.map (·.key) = sites.map (·.id) ∧ run es .blank = w.canvas ∧
      (logOf es .blank).devices = [] := by
  obtain ⟨scene, places, canvas⟩ := w
  obtain ⟨hscene, hdrawn⟩ := Plan.groundwork_eq_ok h
  have hstages : Stages doc default .siteTopology scene := .of_scene hscene
  cases hstages with
  | @siteTopology sites records hsites hrecords =>
    have hplaces : (drawSites sites .blank).1 = places := congrArg Prod.fst hdrawn
    have hcanvas : (drawSites sites .blank).2 = canvas := congrArg Prod.snd hdrawn
    obtain ⟨es, hrun, hlog⟩ := enlists_sites sites .blank
    exact ⟨sites, es, hsites, rfl, hplaces ▸ keys_drawSites sites _, hrun.symm.trans hcanvas,
      List.map_eq_nil_iff.1 hlog⟩

/-- An end that names no node is reported. -/
theorem Groundwork.mem_problems {w : Groundwork} {conn : Connection} (hconn : conn ∈ w.connections)
    {e : Endpoint} (he : e ∈ conn.endpoints) {reason : Unresolved}
    (h : w.scene.resolver.resolve e.device w.canvas = .error reason) :
    .unresolvedEndpoint e.device reason.reason conn.context ∈ w.problems := by
  have hplace : e.problems w.scene.resolver w.canvas conn.context =
      [.unresolvedEndpoint e.device reason.reason conn.context] := by
    rw [Endpoint.problems, Endpoint.place, h]
    rfl
  refine List.mem_append_right _ (List.mem_flatMap.2 ⟨conn, hconn, ?_⟩)
  simp only [Connection.endpoints, List.mem_cons, List.not_mem_nil, or_false] at he
  rcases he with rfl | rfl
  · exact List.mem_append_left _ (hplace ▸ List.mem_singleton_self _)
  · exact List.mem_append_right _ (hplace ▸ List.mem_singleton_self _)

namespace Course

variable {m : Mapping} {options : RenderOptions} {g : Generated} {w : Groundwork}
  {es : List Event} {l : Log}

/-- The type of a site reaches nothing, because only devices are looked up behind a type. -/
theorem missesSite (h : Course m options g w es l) (hkind : g.kind = .siteTopology) :
    ∃ sites, Site.ofDocument m = .ok sites ∧ ∀ conn ∈ w.connections, ∀ e ∈ conn.endpoints,
      e.IsUnnamed g.nodeMap → ∀ s ∈ sites, s.type = some (Text.trim e.device) →
        MissesSite g w conn e s := by
  have hw := h.groundwork
  rw [hkind] at hw
  obtain ⟨sites, steps, hsites, hresolver, hplaces, hrun, hnone⟩ := exists_sites hw
  have hc : w.canvas.Accounts (logOf steps .blank).calls := hrun ▸ Canvas.accounts_run steps
  refine ⟨sites, hsites, fun conn hconn e he hunnamed s hs htype => ?_⟩
  have hdevices : ∀ key, w.canvas.lookupDevice key = none := hc.lookupDevice_eq_none hnone
  have hlookup : w.canvas.lookup (Text.trim e.device) = none := by
    rw [Canvas.lookup, ← h.nodeMap, NodeMap.find?_eq_none_iff.2 hunnamed.2]
    rfl
  obtain ⟨candidate, hcandidate⟩ : ∃ candidate, (Resolver.ofSites sites).candidates.find?
      (fun candidate => candidate.2 == Text.trim e.device) = some candidate := by
    rw [← Option.isSome_iff_exists, List.find?_isSome]
    exact ⟨_, List.mem_map_of_mem hs, by simp [htype]⟩
  have hresolve : w.scene.resolver.resolve e.device w.canvas = .error .typeNotDrawn := by
    rw [Resolver.resolve_of_type hunnamed.1 (hdevices _) hlookup (hresolver ▸ hcandidate)]
    simp only [hdevices]
  obtain ⟨p, hp, hkey⟩ : ∃ p ∈ w.places, p.key = s.id := by
    have hmem : s.id ∈ w.places.map (·.key) := hplaces ▸ List.mem_map_of_mem hs
    exact List.mem_map.1 hmem
  obtain ⟨call, hcall, hcallKey, -⟩ := h.exists_call_of_place hp
  refine ⟨⟨p, hp, hkey⟩, ?_, hresolve, ?_⟩
  · rw [h.nodeMap, ← h.canvas, nodeMap_run]
    exact mem_keys_enterAll (.inr ⟨call, hcall, hcallKey.trans hkey⟩)
  · rw [h.diagnostics]
    exact List.mem_append_right _ (Groundwork.mem_problems hconn he hresolve)

/-- The connections of a list of links are those of its records. -/
theorem connections_links (h : Course m options g w es l) (hkind : g.kind = .links) :
    w.connections = w.scene.links.connections := by
  have hports : w.scene.portLinks = [] := h.portLinks_eq_nil (by rw [hkind]; decide)
  change w.scene.links.connections ++ w.scene.portLinks = _
  rw [hports, List.append_nil]

end Course

/-- What ends that name types reach. In a site topology, an end that names the type of a site
    reaches nothing. In every other document, an end that names the type of a listed device reaches
    the first node with the id of the first such device. -/
def FallsBack (m : Mapping) (g : Generated) (w : Groundwork) : Prop :=
  (g.kind = .siteTopology → ∃ sites, Site.ofDocument m = .ok sites ∧
    ∀ conn ∈ w.connections, ∀ e ∈ conn.endpoints, e.IsUnnamed g.nodeMap →
      ∀ s ∈ sites, s.type = some (Text.trim e.device) → MissesSite g w conn e s) ∧
  (g.kind ≠ .siteTopology → ∃ es listed drawn, run es .blank = w.canvas ∧
    Roster g.kind m (logOf es .blank).calls listed drawn ∧
    ∀ conn ∈ w.connections, ∀ e ∈ conn.endpoints, e.IsUnnamed g.nodeMap →
      ∀ d, listed.find? (fun d => d.type == Text.trim e.device) = some d →
        ReachesFirst drawn w.scene.resolver w.canvas e.device d)

/-- **Types as names.** The ends of every connection fall back to types in this way. -/
theorem typeFallback_of_generate {doc : Value} {options : RenderOptions} {g : Generated}
    (h : generate doc options = .ok g) :
    ∃ m w, doc = .mapping m ∧ (Plan.ofKind g.kind m options).groundwork = .ok w ∧
      FallsBack m g w := by
  obtain ⟨m, w, steps, l, hm, hcourse⟩ := exists_course h
  refine ⟨m, w, hm, hcourse.groundwork, hcourse.missesSite, fun hkind => ?_⟩
  obtain ⟨es, listed, drawn, hrun, hresolver, hroster, hlinks⟩ :=
    exists_roster hkind hcourse.groundwork
  have hc : w.canvas.Accounts (logOf es .blank).calls := hrun ▸ Canvas.accounts_run es
  have hmap : w.canvas.nodeMap = enterAll .empty (logOf es .blank).calls := hrun ▸ nodeMap_run es _
  refine ⟨es, listed, drawn, hrun, hroster, fun conn hconn e he hunnamed d hd => ?_⟩
  obtain ⟨htoken, hkey⟩ := hunnamed
  rw [hcourse.nodeMap] at hkey
  rw [hresolver]
  refine hroster.reachesFirst hc hmap htoken hkey hd ?_
  by_cases hkindLinks : g.kind = .links
  · rw [hcourse.connections_links hkindLinks] at hconn
    exact hroster.exists_drawn_of_type hmap (hlinks hkindLinks conn hconn e he) htoken hkey hd
  · exact hroster.exists_drawn_of_mem hkindLinks (List.mem_of_find?_eq_some hd)

/-- A list of devices in which one is named by its type. -/
def typedDevices : Mapping :=
  [("topology", .mapping [("devices", .list [
      .mapping [("id", .text "s1"), ("type", .text "switch")],
      .mapping [("id", .text "r1"), ("type", .text "router")]])]),
    ("connections", .list [.mapping [("from", .text "switch"), ("to", .text "r1")]])]

theorem typeFallback_typedDevices : ∃ g, generate (.mapping typedDevices) .standard = .ok g ∧
    g.diagram.graph.edges = [⟨"s1", "r1", .empty⟩] ∧
    ∃ m w, .mapping typedDevices = Value.mapping m ∧
      (Plan.ofKind g.kind m .standard).groundwork = .ok w ∧ FallsBack m g w := by
  have hedges : ((generate (.mapping typedDevices) .standard).toOption.map fun g =>
      g.diagram.graph.edges) = some [⟨"s1", "r1", .empty⟩] := by decide +kernel
  obtain ⟨g, hg, hedges⟩ := exists_of_toOption_map hedges
  exact ⟨g, hg, hedges, typeFallback_of_generate hg⟩

/-- Two sites, of which one is named by its type. -/
def typedSites : Mapping :=
  [("sites", .list [.mapping [("id", .text "s1"), ("type", .text "core")],
      .mapping [("id", .text "s2")]]),
    ("connections", .list [.mapping [("from", .text "core"), ("to", .text "s2")]])]

/-- The site was drawn, but the end that names its type reaches nothing, and no edge is drawn. -/
theorem not_typeFallback_typedSites :
    (∃ g, generate (.mapping typedSites) .standard = .ok g ∧ g.diagram.graph.edges = [] ∧
      g.nodeMap.keys = ["s1", "s2"]) ∧
    ¬ ∀ sites w, Site.ofDocument typedSites = .ok sites →
      (Plan.ofKind (classifyMapping typedSites) typedSites .standard).groundwork = .ok w →
      ∀ conn ∈ w.connections, ∀ e ∈ conn.endpoints, e.IsUnnamed w.canvas.nodeMap →
        ∀ s, sites.find? (fun s => s.type == some (Text.trim e.device)) = some s →
          ∃ found, w.scene.resolver.resolve e.device w.canvas = .ok found := by
  have hresult : ((generate (.mapping typedSites) .standard).toOption.map fun g =>
      (g.diagram.graph.edges, g.nodeMap.keys)) = some ([], ["s1", "s2"]) := by decide +kernel
  have hfacts :
      ((Plan.ofKind (classifyMapping typedSites) typedSites .standard).groundwork.toOption.map
        fun w => (w.connections.map fun conn => conn.source.device, w.canvas.nodeMap.keys,
          (w.scene.resolver.resolve "core" w.canvas).toOption)) =
      some (["core"], ["s1", "s2"], none) := by decide +kernel
  have hsite : ((Site.ofDocument typedSites).toOption.map fun sites =>
      (sites.find? fun s => s.type == some "core").map (·.id)) = some (some "s1") := by
    decide +kernel
  constructor
  · obtain ⟨g, hg, hresult⟩ := exists_of_toOption_map hresult
    exact ⟨g, hg, Prod.mk.inj hresult⟩
  · intro hreaches
    obtain ⟨w, hw, hfacts⟩ := exists_of_toOption_map hfacts
    obtain ⟨sites, hsites, hsite⟩ := exists_of_toOption_map hsite
    simp only [Prod.mk.injEq, List.map_eq_singleton_iff] at hfacts
    obtain ⟨⟨conn, hconn, hsource⟩, hkeys, hnone⟩ := hfacts
    obtain ⟨s, hs, -⟩ := Option.map_eq_some_iff.1 hsite
    have hname : Text.trim conn.source.device = "core" := by rw [hsource]; decide +kernel
    have hunnamed : conn.source.IsUnnamed w.canvas.nodeMap := by
      refine ⟨by rw [hsource]; decide +kernel, ?_⟩
      rw [hname, hkeys]
      decide
    obtain ⟨found, hfound⟩ := hreaches sites w hsites hw conn (by simp [hconn]) conn.source
      (by simp [Connection.endpoints]) hunnamed s (by rw [hname]; exact hs)
    rw [hsource] at hfound
    simp [hfound, Except.toOption] at hnone

-- ════════════════════════════════════════════════════════════════════════
-- Ids of listed devices
-- ════════════════════════════════════════════════════════════════════════

/-- What a token reaches that is the id of a listed device. Without white space around the id it is
    the first node with that id. Otherwise the white space is lost, and it is that node only if
    nothing has what is left as its key, and the first device with this for its type has the id. -/
def AnswersToId (listed : List Device) (drawn : List (Device × Call)) (r : Resolver) (c : Canvas)
    (d : Device) : Prop :=
  ∃ x, drawn.find? (fun y => y.1.id == d.id) = some x ∧
    (Text.trim d.id = d.id → r.resolve d.id c = .ok ⟨x.2.2, d.id⟩) ∧
    ((∃ key, r.resolve d.id c = .ok ⟨x.2.2, key⟩) ↔
      Text.trim d.id = d.id ∨ Text.trim d.id ∉ c.nodeMap.keys ∧
        (listed.find? fun other => other.type == Text.trim d.id).map (·.id) = some d.id)

/-- What a token reaches was declared under the key that it is found by, or, if that is the token's
    own name, under a key that came to be this one. -/
theorem Resolver.exists_call_of_resolve {r : Resolver} {token : String} {c : Canvas}
    {calls : List Call} (hc : c.Accounts calls) {found : Resolved}
    (h : r.resolve token c = .ok found) :
    ∃ call ∈ calls, call.2 = found.graphId ∧
      (Canvas.HeldAt call.1.key (Text.trim token) ∨
        call.1.key = found.key ∧ c.lookup (Text.trim token) = none ∧
          ∃ type, r.candidates.find? (fun candidate => candidate.2 == Text.trim token) =
            some (found.key, type)) := by
  obtain ⟨-, ⟨hkey, hid⟩ | ⟨-, hlookup, htype, hid⟩⟩ := Resolver.resolve_cases h
  · rw [hkey] at hid
    rcases Option.or_eq_some_iff.1 hid with hid | ⟨-, hid⟩
    · obtain ⟨call, hcall, hnode, -, hcallKey⟩ := hc.exists_call_of_lookupDevice hid
      exact ⟨call, hcall, hnode, .inl (hcallKey ▸ .own)⟩
    · obtain ⟨call, hcall, hnode, hheld⟩ := hc.exists_call_of_lookup hid
      exact ⟨call, hcall, hnode, .inl hheld⟩
  · obtain ⟨call, hcall, hnode, -, hcallKey⟩ := hc.exists_call_of_lookupDevice hid
    exact ⟨call, hcall, hnode, .inr ⟨hcallKey, hlookup, htype⟩⟩

theorem Roster.answersToId {kind : Kind} {doc : Mapping} {calls : List Call}
    {listed : List Device} {drawn : List (Device × Call)} {c : Canvas} {d : Device}
    (h : Roster kind doc calls listed drawn) (hkind : kind ≠ .links) (hc : c.Accounts calls)
    (hmap : c.nodeMap = enterAll .empty calls) (hd : d ∈ listed)
    (hid : isPlaceholder d.id = false) :
    AnswersToId listed drawn (.ofDevices listed) c d := by
  obtain ⟨x, hx, hmem, hxid, htable⟩ := h.exists_first hc hd (h.exists_drawn_of_mem hkind hd)
  have hown : Text.trim d.id = d.id →
      (Resolver.ofDevices listed).resolve d.id c = .ok ⟨x.2.2, d.id⟩ := by
    intro htrim
    have hresolve := Resolver.resolve_of_lookupDevice (r := .ofDevices listed) hid
      (htrim.symm ▸ htable)
    rwa [htrim] at hresolve
  refine ⟨x, hx, hown, ?_, ?_⟩
  · rintro ⟨key, hresolve⟩
    obtain ⟨call, hcall, hnode, hfound⟩ := Resolver.exists_call_of_resolve hc hresolve
    have hcallKey : call.1.key = d.id := by
      rw [hc.call_unique hcall (h.mem_calls hmem) hnode, (h.shown x hmem).2.key, hxid]
    rw [hcallKey] at hfound
    rcases hfound with hheld | ⟨rfl, hlookup, type, htype⟩
    · -- a moved entry has a longer key, but the name of the token is not longer than the id
      have hlength := Text.length_trim_le d.id
      rcases hheld.eq_or_length_lt with htrim | hlt
      · exact .inl htrim
      · omega
    · refine .inr ⟨?_, ?_⟩
      · rw [Canvas.lookup, Option.map_eq_none_iff] at hlookup
        exact NodeMap.find?_eq_none_iff.1 hlookup
      · rw [Resolver.find?_ofDevices, Option.map_eq_some_iff] at htype
        obtain ⟨other, hother, heq⟩ := htype
        rw [hother]
        exact congrArg some (congrArg Prod.fst heq)
  · rintro (htrim | ⟨hkey, htype⟩)
    · exact ⟨d.id, hown htrim⟩
    · obtain ⟨other, hother, hotherId⟩ := Option.map_eq_some_iff.1 htype
      obtain ⟨hdevice, hlookup⟩ := hc.unknown hmap hkey
      rw [← hotherId] at htable
      exact ⟨other.id, Resolver.resolve_ofDevices_of_type hid hdevice hlookup hother htable⟩

/-- **What ends that name ids reach.** In every document that draws all devices that it lists, an
    end that names a device by its id reaches the first node with that id, unless white space
    around the id gets lost. -/
theorem answersToId_of_generate {doc : Value} {options : RenderOptions} {g : Generated}
    (h : generate doc options = .ok g) (hkind : g.kind ≠ .siteTopology ∧ g.kind ≠ .links) :
    ∃ m w es listed drawn, doc = .mapping m ∧ (Plan.ofKind g.kind m options).groundwork = .ok w ∧
      run es .blank = w.canvas ∧ Roster g.kind m (logOf es .blank).calls listed drawn ∧
      ∀ d ∈ listed, isPlaceholder d.id = false →
        AnswersToId listed drawn w.scene.resolver w.canvas d := by
  obtain ⟨m, w, steps, l, hm, hcourse⟩ := exists_course h
  obtain ⟨es, listed, drawn, hrun, hresolver, hroster, -⟩ :=
    exists_roster hkind.1 hcourse.groundwork
  have hc : w.canvas.Accounts (logOf es .blank).calls := hrun ▸ Canvas.accounts_run es
  have hmap : w.canvas.nodeMap = enterAll .empty (logOf es .blank).calls := hrun ▸ nodeMap_run es _
  refine ⟨m, w, es, listed, drawn, hm, hcourse.groundwork, hrun, hroster, fun d hd hid => ?_⟩
  rw [hresolver]
  exact hroster.answersToId hkind.2 hc hmap hd hid

/-- A device with a name of its own, and one that is no more than its name. -/
def namedDevices : Mapping :=
  [("topology", .mapping [("devices", .list [
      .mapping [("id", .text " a "), ("type", .text "switch")], .text "b"])]),
    ("connections", .list [.mapping [("from", .text "a"), ("to", .text "b")]])]

theorem answersToId_namedDevices : ∃ g, generate (.mapping namedDevices) .standard = .ok g ∧
    g.diagram.graph.edges = [⟨"a", "b", .empty⟩] ∧
    (g.kind ≠ .siteTopology ∧ g.kind ≠ .links) ∧
    ∃ m w es listed drawn, .mapping namedDevices = Value.mapping m ∧
      (Plan.ofKind g.kind m .standard).groundwork = .ok w ∧
      run es .blank = w.canvas ∧ Roster g.kind m (logOf es .blank).calls listed drawn ∧
      ∀ d ∈ listed, isPlaceholder d.id = false →
        AnswersToId listed drawn w.scene.resolver w.canvas d := by
  have hresult : ((generate (.mapping namedDevices) .standard).toOption.map fun g =>
      (g.diagram.graph.edges, g.kind)) = some ([⟨"a", "b", .empty⟩], .topology) := by
    decide +kernel
  obtain ⟨g, hg, hresult⟩ := exists_of_toOption_map hresult
  obtain ⟨hedges, hkind⟩ := Prod.mk.inj hresult
  have hkinds : g.kind ≠ .siteTopology ∧ g.kind ≠ .links := by
    rw [hkind]
    decide
  exact ⟨g, hg, hedges, hkinds, answersToId_of_generate hg hkinds⟩

/-- A device whose name begins with a blank. -/
def indented : Mapping :=
  [("topology", .mapping [("devices", .list [.text " a", .text "b"])]),
    ("connections", .list [.mapping [("from", .text " a"), ("to", .text "b")]])]

/-- The device was drawn, but the end that names it by its id reaches nothing. -/
theorem not_answersToId_indented :
    (∃ g, generate (.mapping indented) .standard = .ok g ∧ g.diagram.graph.edges = [] ∧
      g.nodeMap.keys = [" a", "b"]) ∧
    ¬ ∀ listed w, (classifyMapping indented).listing indented = .ok listed →
      (Plan.ofKind (classifyMapping indented) indented .standard).groundwork = .ok w →
      ∀ d ∈ listed, isPlaceholder d.id = false →
        ∃ found, w.scene.resolver.resolve d.id w.canvas = .ok found := by
  have hresult : ((generate (.mapping indented) .standard).toOption.map fun g =>
      (g.diagram.graph.edges, g.nodeMap.keys)) = some ([], [" a", "b"]) := by decide +kernel
  have hfacts : ((Plan.ofKind (classifyMapping indented) indented .standard).groundwork.toOption.map
      fun w => (w.scene.resolver.resolve " a" w.canvas).toOption) = some none := by decide +kernel
  have hids : (((classifyMapping indented).listing indented).toOption.map fun listed =>
      listed.map (·.id)) = some [" a", "b"] := by decide +kernel
  constructor
  · obtain ⟨g, hg, hresult⟩ := exists_of_toOption_map hresult
    exact ⟨g, hg, Prod.mk.inj hresult⟩
  · intro hanswers
    obtain ⟨w, hw, hnone⟩ := exists_of_toOption_map hfacts
    obtain ⟨listed, hlisted, hids⟩ := exists_of_toOption_map hids
    obtain ⟨d, rest, rfl, hid, -⟩ := List.map_eq_cons_iff.1 hids
    obtain ⟨found, hfound⟩ := hanswers _ w hlisted hw d (by simp) (by rw [hid]; decide +kernel)
    rw [hid] at hfound
    simp [hfound, Except.toOption] at hnone

end InfraDiagram

import InfraDiagram.Proofs.Enrolment
import InfraDiagram.Proofs.Runs
import Mathlib.Data.List.Find

/-!
# Listed devices

The devices that a document lists, and the nodes that are drawn for them. Every kind of diagram
draws each listed device once, in an order of its own; a list of links draws those that it names.

## Main definitions

- `Kind.listing` — the devices that a document lists, in its order
- `Device.ShownBy` — a declaration that shows a device
- `Enrols` — a scene that draws the listed devices
- `Roster` — the listed devices with the nodes they got

## Main statements

- `exists_enrols_of_scene` — the scene of a plan draws the devices that its document lists
- `exists_roster` — the nodes of listed devices in a run
- `Roster.lookupDevice` — the table of devices has the first node of an id
-/

namespace InfraDiagram

open Dot

-- ════════════════════════════════════════════════════════════════════════
-- Listings
-- ════════════════════════════════════════════════════════════════════════

/-- The devices of the mapping under the marker of a document. -/
def listingUnder (doc : Mapping) (marker : String) (keys : List String) :
    Except StructureError (List Device) :=
  match (doc.get? marker).bind Value.mapping? with
  | some m => Device.listIn m keys "device" (Path.root.key marker) "device"
  | none => .ok []

/-- The devices that a document of a given kind lists, in its order. Racks come one after the
    other, and servers before the equipment around them. -/
def Kind.listing (kind : Kind) (doc : Mapping) : Except StructureError (List Device) :=
  match kind with
  | .siteEquipment => (Rack.ofDocument doc).map fun racks => racks.flatMap (·.devices)
  | .rackServers => (Rack.ofServerDocument doc).map fun racks => racks.flatMap (·.devices)
  | .serverDetails => do
    let entities ← Field.oneOrMany doc "server" "servers" .root
    let servers ← entities.zipIdx.mapM fun ((v, path), i) =>
      Device.ofValue v "server" i path "server"
    let peers ← Device.listIn doc ["devices", "peers"] "peer" .root "device"
    return servers ++ peers
  | .topology => listingUnder doc "topology" ["devices", "nodes"]
  | .intent => listingUnder doc "intent" ["devices", "endpoints"]
  | .device =>
    match doc.get? "device" with
    | none | some .null => .ok []
    | some value =>
      (Device.ofValue value "device" 0 (Path.root.key "device") "device").map ([·])
  | .links => Device.listIn doc ["devices"] "device" .root "device"
  | .siteTopology | .unknown => .ok []

/-- A declaration that shows a device: it has the device's id, and its label begins with the
    device's own lines. -/
structure Device.ShownBy (d : Device) (decl : Declaration) : Prop where
  key : decl.key = d.id
  sourceId : decl.sourceId = d.id
  entity : decl.entity.isDevice = true
  label : ∃ showUnit rest, decl.label = d.lines showUnit ++ rest

namespace Device

variable (d : Device)

theorem shownBy_declaration {entity : EntityType} (h : entity.isDevice = true) (showUnit : Bool) :
    d.ShownBy (d.declaration entity showUnit) :=
  ⟨rfl, rfl, h, showUnit, [], (List.append_nil _).symm⟩

theorem shownBy_serverDeclaration : d.ShownBy d.serverDeclaration :=
  ⟨rfl, rfl, rfl, true, d.details, rfl⟩

theorem shownBy_peerDeclaration : d.ShownBy d.peerDeclaration :=
  ⟨rfl, rfl, rfl, false, [], (List.append_nil _).symm⟩

theorem shownBy_anchorDeclaration : d.ShownBy d.anchorDeclaration :=
  ⟨rfl, rfl, rfl, false, [], (List.append_nil _).symm⟩

end Device

-- ════════════════════════════════════════════════════════════════════════
-- Nodes of links
-- ════════════════════════════════════════════════════════════════════════

/-- A node of a list of links: a known device, or a token that is no known id. -/
def Implied.Sound (known : List Device) (n : Implied) : Prop :=
  (∃ d ∈ known, n = ⟨d.id, some d⟩) ∨ n.device = none ∧ ∀ d ∈ known, d.id ≠ n.key

theorem Implied.key_declaration {known : List Device} {n : Implied} (h : n.Sound known) :
    n.declaration.key = n.key := by
  obtain ⟨d, -, rfl⟩ | ⟨hnone, -⟩ := h
  · rfl
  · rw [declaration, hnone]

theorem mem_of_knownDevice? {known : List Device} {token : String} {d : Device}
    (h : knownDevice? known token = some d) : d ∈ known := by
  rcases Option.or_eq_some_iff.1 h with hid | ⟨-, htype⟩
  · exact List.mem_reverse.1 (List.mem_of_find?_eq_some hid)
  · exact List.mem_of_find?_eq_some htype

theorem implied?_eq {known : List Device} {raw : String} (h : isPlaceholder raw = false) :
    implied? known raw = some (match knownDevice? known (Text.trim raw) with
      | some d => ⟨d.id, some d⟩
      | none => ⟨Text.trim raw, none⟩) := by
  have hname : isPlaceholder (Text.trim raw) = false := by
    rw [isPlaceholder, Text.trim_trim]
    exact h
  unfold implied?
  simp only [hname, Bool.false_eq_true, if_false]
  cases knownDevice? known (Text.trim raw) <;> rfl

theorem sound_of_implied? {known : List Device} {raw : String} {n : Implied}
    (h : implied? known raw = some n) : n.Sound known := by
  unfold implied? at h
  dsimp only at h
  split_ifs at h
  split at h
  · rename_i d hd
    cases h
    exact .inl ⟨d, mem_of_knownDevice? hd, rfl⟩
  · rename_i hnone
    cases h
    refine .inr ⟨rfl, fun d hd heq => ?_⟩
    have hid := (Option.or_eq_none_iff.1 hnone).1
    rw [List.find?_eq_none] at hid
    exact hid d (List.mem_reverse.2 hd) (by simp [heq])

theorem mem_addImplied {nodes : List Implied} {n m : Implied} (h : m ∈ addImplied nodes n) :
    m ∈ nodes ∨ m = n := by
  unfold addImplied at h
  split_ifs at h
  · exact .inl h
  · simpa using h

theorem exists_key_addImplied {nodes : List Implied} {n : Implied} {key : String}
    (h : (∃ m ∈ nodes, m.key = key) ∨ n.key = key) : ∃ m ∈ addImplied nodes n, m.key = key := by
  unfold addImplied
  split_ifs with hany
  · rcases h with h | rfl
    · exact h
    · simpa using hany
  · rcases h with ⟨m, hm, rfl⟩ | rfl
    · exact ⟨m, List.mem_append_left _ hm, rfl⟩
    · exact ⟨n, by simp, rfl⟩

theorem mem_foldl_addImplied {ns nodes : List Implied} {m : Implied}
    (h : m ∈ ns.foldl addImplied nodes) : m ∈ nodes ∨ m ∈ ns := by
  induction ns generalizing nodes with
  | nil => exact .inl h
  | cons n ns ih =>
    rcases ih h with hm | hm
    · exact (mem_addImplied hm).imp_right fun heq => by simp [heq]
    · exact .inr (List.mem_cons_of_mem _ hm)

theorem exists_key_foldl_addImplied {ns nodes : List Implied} {key : String}
    (h : (∃ m ∈ nodes, m.key = key) ∨ ∃ m ∈ ns, m.key = key) :
    ∃ m ∈ ns.foldl addImplied nodes, m.key = key := by
  induction ns generalizing nodes with
  | nil => simpa using h
  | cons n ns ih =>
    refine ih ?_
    rcases h with h | ⟨m, hm, hkey⟩
    · exact .inl (exists_key_addImplied (.inl h))
    · rcases List.mem_cons.1 hm with rfl | hm
      · exact .inl (exists_key_addImplied (.inr hkey))
      · exact .inr ⟨m, hm, hkey⟩

theorem sound_of_mem_impliedNodes {known : List Device} {links : List Connection} {n : Implied}
    (h : n ∈ impliedNodes known links) : n.Sound known := by
  rcases mem_foldl_addImplied h with hnil | hmem
  · cases hnil
  · obtain ⟨raw, -, hraw⟩ := List.mem_filterMap.1 hmem
    exact sound_of_implied? hraw

/-- The ends of a connection. -/
def Connection.endpoints (conn : Connection) : List Endpoint :=
  [conn.source, conn.target]

/-- Every end of a link that stands for a node has one with its key. -/
theorem exists_mem_impliedNodes {known : List Device} {links : List Connection}
    {conn : Connection} (hconn : conn ∈ links) {e : Endpoint} (he : e ∈ conn.endpoints)
    {n : Implied} (hn : implied? known e.device = some n) :
    ∃ m ∈ impliedNodes known links, m.key = n.key := by
  refine exists_key_foldl_addImplied (.inr ⟨n, List.mem_filterMap.2 ⟨e.device, ?_, hn⟩, rfl⟩)
  refine List.mem_flatMap.2 ⟨conn, hconn, ?_⟩
  simp only [Connection.endpoints, List.mem_cons, List.not_mem_nil, or_false] at he
  rcases he with rfl | rfl <;> simp

/-- The known devices among the nodes of links, with their declarations. -/
def knownNodes (nodes : List Implied) : List (Device × Declaration) :=
  nodes.filterMap fun n => n.device.map fun d => (d, n.declaration)

theorem map_snd_knownNodes {known : List Device} {nodes : List Implied}
    (h : ∀ n ∈ nodes, n.Sound known) :
    (nodes.map Implied.declaration).filter (fun decl => known.any (·.id == decl.key)) =
      (knownNodes nodes).map Prod.snd := by
  induction nodes with
  | nil => rfl
  | cons n nodes ih =>
    rw [List.forall_mem_cons] at h
    rw [List.map_cons, List.filter_cons, ih h.2, Implied.key_declaration h.1]
    obtain ⟨d, hd, rfl⟩ | ⟨hnone, hids⟩ := h.1
    · rw [if_pos (List.any_eq_true.2 ⟨d, hd, by simp⟩)]
      rfl
    · rw [if_neg (by simpa using hids)]
      simp [knownNodes, hnone]

-- ════════════════════════════════════════════════════════════════════════
-- Scenes
-- ════════════════════════════════════════════════════════════════════════

/-- The scene finds types among the devices that the document lists, and draws these devices:
    `declared` are all declarations of devices, `drawn` those of listed ones. -/
structure Enrols (kind : Kind) (doc : Mapping) (scene : Scene) (listed : List Device)
    (declared : List Declaration) (drawn : List (Device × Declaration)) : Prop where
  listing : kind.listing doc = .ok listed
  resolver : scene.resolver = .ofDevices listed
  nodes : Enlists scene.nodes declared
  own : declared.filter (fun decl => listed.any (·.id == decl.key)) = drawn.map Prod.snd
  shown : ∀ x ∈ drawn, x.1 ∈ listed ∧ x.1.ShownBy x.2
  all : kind ≠ .links → (drawn.map Prod.fst).Perm listed
  /-- A list of links declares a node for each of its ends. -/
  implied : kind = .links → ∀ conn ∈ scene.links.connections, ∀ e ∈ conn.endpoints, ∀ n,
    implied? listed e.device = some n → ∃ decl ∈ declared, decl.key = n.key

namespace Enrols

variable {kind : Kind} {doc : Mapping} {scene : Scene} {listed : List Device}
  {options : RenderOptions}

/-- A scene that declares every listed device once, and no others. -/
theorem of_all (hkind : kind ≠ .links) {drawn : List (Device × Declaration)}
    (listing : kind.listing doc = .ok listed) (resolver : scene.resolver = .ofDevices listed)
    (nodes : Enlists scene.nodes (drawn.map Prod.snd))
    (shown : ∀ x ∈ drawn, x.1.ShownBy x.2) (all : (drawn.map Prod.fst).Perm listed) :
    Enrols kind doc scene listed (drawn.map Prod.snd) drawn := by
  have hlisted : ∀ x ∈ drawn, x.1 ∈ listed := fun x hx =>
    all.mem_iff.1 (List.mem_map_of_mem hx)
  exact {
    listing, resolver, nodes
    own := by
      rw [List.filter_eq_self]
      intro decl hdecl
      obtain ⟨x, hx, rfl⟩ := List.mem_map.1 hdecl
      exact List.any_eq_true.2 ⟨x.1, hlisted x hx, by simp [(shown x hx).key]⟩
    shown := fun x hx => ⟨hlisted x hx, shown x hx⟩
    all := fun _ => all
    implied := fun h => absurd h hkind }

/-- A scene that declares all devices alike, in an order of its own. -/
theorem of_order (hkind : kind ≠ .links) {order : List Device} {decl : Device → Declaration}
    (listing : kind.listing doc = .ok listed) (resolver : scene.resolver = .ofDevices listed)
    (nodes : Enlists scene.nodes (order.map decl)) (shown : ∀ d : Device, d.ShownBy (decl d))
    (all : order.Perm listed) : ∃ declared drawn, Enrols kind doc scene listed declared drawn := by
  refine ⟨_, order.map fun d => (d, decl d), of_all hkind listing resolver ?_ ?_ ?_⟩
  · rwa [List.map_map]
  · intro x hx
    obtain ⟨d, -, rfl⟩ := List.mem_map.1 hx
    exact shown d
  · rw [List.map_map]
    exact (List.map_id order).symm ▸ all

theorem nothing (hkind : kind ≠ .links) (listing : kind.listing doc = .ok []) :
    ∃ declared drawn, Enrols kind doc .nothing [] declared drawn :=
  ⟨_, [], of_all hkind listing rfl .pure (by simp) .nil⟩

theorem serverDetails {entities : List (Value × Path)} {servers peers : List Device}
    {cabling : Connection.Decoded}
    (hentities : Field.oneOrMany doc "server" "servers" .root = .ok entities)
    (hservers : (entities.zipIdx.mapM fun ((v, path), i) =>
      Device.ofValue v "server" i path "server") = .ok servers)
    (hpeers : Device.listIn doc ["devices", "peers"] "peer" .root "device" = .ok peers) :
    ∃ declared drawn, Enrols .serverDetails doc
      ⟨drawServers servers peers options, .ofDevices (servers ++ peers), cabling,
        portLinks servers⟩ (servers ++ peers) declared drawn := by
  have hlisting : Kind.serverDetails.listing doc = .ok (servers ++ peers) := by
    simp only [Kind.listing, hentities, hservers, hpeers, bind, Except.bind]
    rfl
  refine ⟨_, (servers.map fun s => (s, s.serverDeclaration)) ++
    peers.map fun d => (d, d.peerDeclaration), of_all (by decide) hlisting rfl ?_ ?_ ?_⟩
  · rw [List.map_append, List.map_map, List.map_map]
    exact enlists_servers servers peers options
  · intro x hx
    rcases List.mem_append.1 hx with hx | hx <;> obtain ⟨d, -, rfl⟩ := List.mem_map.1 hx
    · exact d.shownBy_serverDeclaration
    · exact d.shownBy_peerDeclaration
  · simp [Function.comp_def]

theorem links {known : List Device} {decoded : Connection.Decoded}
    (hknown : Device.listIn doc ["devices"] "device" .root "device" = .ok known) :
    Enrols .links doc
      ⟨drawImplied (impliedNodes known decoded.connections), .ofDevices known, decoded, []⟩ known
      ((impliedNodes known decoded.connections).map Implied.declaration)
      (knownNodes (impliedNodes known decoded.connections)) where
  listing := hknown
  resolver := rfl
  nodes := enlists_implied _
  own := map_snd_knownNodes fun n => sound_of_mem_impliedNodes
  shown := by
    intro x hx
    obtain ⟨n, hn, hx⟩ := List.mem_filterMap.1 hx
    obtain ⟨d, hd, rfl⟩ | ⟨hnone, -⟩ := sound_of_mem_impliedNodes hn
    · cases hx
      exact ⟨hd, d.shownBy_declaration rfl false⟩
    · simp [hnone] at hx
  all := fun hne => absurd rfl hne
  implied := by
    intro _ conn hconn e he n hn
    obtain ⟨m, hm, hkey⟩ := exists_mem_impliedNodes hconn he hn
    exact ⟨m.declaration, List.mem_map_of_mem hm,
      (Implied.key_declaration (sound_of_mem_impliedNodes hm)).trans hkey⟩

end Enrols

/-- The scene of a plan draws the devices that its document lists. -/
theorem exists_enrols_of_scene {kind : Kind} (hkind : kind ≠ .siteTopology) {doc : Mapping}
    {options : RenderOptions} {scene : Scene}
    (h : (Plan.ofKind kind doc options).scene = .ok scene) :
    ∃ listed declared drawn, Enrols kind doc scene listed declared drawn := by
  cases Stages.of_scene h with
  | siteTopology => exact absurd rfl hkind
  | @siteEquipment racks site cabling hracks hsite hcabling =>
    exact ⟨_, Enrols.of_order (by decide) (by rw [Kind.listing, hracks]; rfl) rfl
      (enlists_rackDiagram site racks rfl options) (fun d => d.shownBy_declaration (by rfl) true)
      (perm_rackOrder racks)⟩
  | @rackServers racks cabling hracks hcabling =>
    exact ⟨_, Enrols.of_order (by decide) (by rw [Kind.listing, hracks]; rfl) rfl
      (enlists_rackDiagram none racks rfl options) (fun d => d.shownBy_declaration (by rfl) true)
      (perm_rackOrder racks)⟩
  | serverDetails hentities hservers hpeers hcabling =>
    exact ⟨_, Enrols.serverDetails hentities hservers hpeers⟩
  | @topology topology devices inner outer innerPath hmarker hdevices hinner houter =>
    exact ⟨_, Enrols.of_order (by decide)
      (by rw [Kind.listing, listingUnder, ← Field.mapping_eq_ok hmarker]; exact hdevices) rfl
      (enlists_zoned devices) (fun d => d.shownBy_declaration (by rfl) false)
      (perm_zoneOrder devices)⟩
  | nullTopology hmarker =>
    exact ⟨_, Enrols.nothing (by decide)
      (by rw [Kind.listing, listingUnder, ← Field.mapping_eq_ok hmarker])⟩
  | @device value device records hmarker hvalue hdevice hrecords =>
    have hlisting : Kind.device.listing doc = .ok [device] := by
      simp only [Kind.listing, hmarker]
      rw [hdevice]
      rfl
    have hstack : Enlists
        (do return [← device.drawStack options] : Draw (List Placement))
        ([device].map Device.anchorDeclaration) :=
      (enlists_stack device options).andThen fun _ => .pure
    exact ⟨_, Enrols.of_order (by decide) hlisting rfl hstack Device.shownBy_anchorDeclaration
      (.refl _)⟩
  | nullDevice hmarker =>
    refine ⟨_, Enrols.nothing (by decide) ?_⟩
    rcases hmarker with hmarker | hmarker <;> rw [Kind.listing, hmarker]
  | links hrecords hknown => exact ⟨_, _, _, .links hknown⟩
  | @intent intent devices flows goals flowsPath goalsPath hmarker hdevices hflows hgoals =>
    exact ⟨_, Enrols.of_order (by decide)
      (by rw [Kind.listing, listingUnder, ← Field.mapping_eq_ok hmarker]; exact hdevices) rfl
      (enlists_intent rfl devices) (fun d => d.shownBy_declaration (by rfl) false)
      (perm_zoneOrder devices)⟩
  | nullIntent hmarker =>
    exact ⟨_, Enrols.nothing (by decide)
      (by rw [Kind.listing, listingUnder, ← Field.mapping_eq_ok hmarker])⟩
  | unknown =>
    exact ⟨[], _, [], .of_all (by decide) rfl rfl ((Enlists.warn _).andThen fun _ => .pure)
      (by simp) .nil⟩

-- ════════════════════════════════════════════════════════════════════════
-- Nodes of listed devices
-- ════════════════════════════════════════════════════════════════════════

/-- The listed devices of a document and the nodes they got: `calls` are the declarations of a
    run, and `drawn` are those among them that show listed devices, in their order. -/
structure Roster (kind : Kind) (doc : Mapping) (calls : List Call) (listed : List Device)
    (drawn : List (Device × Call)) : Prop where
  listing : kind.listing doc = .ok listed
  own : (calls.filter fun call => call.1.entity.isDevice && listed.any (·.id == call.1.key)) =
    drawn.map Prod.snd
  shown : ∀ x ∈ drawn, x.1 ∈ listed ∧ x.1.ShownBy x.2.1
  /-- Every listed device is drawn once, except that links draw what they name. -/
  all : kind ≠ .links → (drawn.map Prod.fst).Perm listed

/-- Two lists that agree on what they share can be put together. -/
theorem exists_joined {α β γ : Type} {as : List (α × β)} {bs : List (β × γ)}
    (h : bs.map Prod.fst = as.map Prod.snd) :
    ∃ cs : List (α × β × γ), cs.map Prod.fst = as.map Prod.fst ∧ cs.map Prod.snd = bs ∧
      ∀ c ∈ cs, (c.1, c.2.1) ∈ as := by
  induction as generalizing bs with
  | nil => exact ⟨[], rfl, (List.map_eq_nil_iff.1 h).symm, by simp⟩
  | cons a as ih =>
    obtain ⟨b, bs, rfl, hb, hbs⟩ := List.map_eq_cons_iff.1 h
    obtain ⟨cs, hfst, hsnd, hmem⟩ := ih hbs
    refine ⟨(a.1, b) :: cs, ?_, ?_, ?_⟩
    · rw [List.map_cons, List.map_cons, hfst]
    · rw [List.map_cons, hsnd]
    · intro c hc
      rcases List.mem_cons.1 hc with rfl | hc
      · simp [hb]
      · exact List.mem_cons_of_mem _ (hmem c hc)

/-- The nodes of listed devices in a run. -/
theorem exists_roster {kind : Kind} (hkind : kind ≠ .siteTopology) {doc : Mapping}
    {options : RenderOptions} {w : Groundwork}
    (h : (Plan.ofKind kind doc options).groundwork = .ok w) :
    ∃ es listed drawn, run es .blank = w.canvas ∧ w.scene.resolver = .ofDevices listed ∧
      Roster kind doc (logOf es .blank).calls listed drawn ∧
      (kind = .links → ∀ conn ∈ w.scene.links.connections, ∀ e ∈ conn.endpoints, ∀ n,
        implied? listed e.device = some n →
        ∃ call ∈ (logOf es .blank).calls, call.1.entity.isDevice = true ∧ call.1.key = n.key) := by
  obtain ⟨hscene, hdrawn⟩ := Plan.groundwork_eq_ok h
  obtain ⟨listed, declared, order, henrols⟩ := exists_enrols_of_scene hkind hscene
  -- the comments come first and declare nothing
  have hcomments : Enlists ((Plan.ofKind kind doc options).comments.forM comment) [] :=
    .forM_nil fun text => .comment text
  obtain ⟨es, hrun, hlog⟩ := (hcomments.bind fun _ => henrols.nodes) .blank
  rw [List.nil_append] at hlog
  have hown : ((logOf es .blank).devices.filter fun call => listed.any (·.id == call.1.key)).map
      Prod.fst = order.map Prod.snd := by
    rw [← henrols.own, ← hlog, List.filter_map]
    rfl
  obtain ⟨drawn, hdevices, hcalls, hmem⟩ := exists_joined hown
  refine ⟨es, listed, drawn, hrun.symm.trans (congrArg Prod.snd hdrawn), henrols.resolver, {
    listing := henrols.listing
    own := ?_
    shown := fun x hx => henrols.shown _ (hmem x hx)
    all := fun hne => hdevices ▸ henrols.all hne }, ?_⟩
  · rw [hcalls, Log.devices, List.filter_filter]
    exact List.filter_congr fun call _ => Bool.and_comm ..
  · intro hlinks conn hconn e he n hn
    obtain ⟨decl, hdecl, hkey⟩ := henrols.implied hlinks conn hconn e he n hn
    rw [← hlog] at hdecl
    obtain ⟨call, hcall, rfl⟩ := List.mem_map.1 hdecl
    obtain ⟨hcall, hdevice⟩ := List.mem_filter.1 hcall
    exact ⟨call, hcall, hdevice, hkey⟩

namespace Roster

variable {kind : Kind} {doc : Mapping} {calls : List Call} {listed : List Device}
  {drawn : List (Device × Call)}

/-- The node of a listed device is one of the declared ones. -/
theorem mem_calls (h : Roster kind doc calls listed drawn) {x : Device × Call} (hx : x ∈ drawn) :
    x.2 ∈ calls := by
  have hmem : x.2 ∈ drawn.map Prod.snd := List.mem_map_of_mem hx
  rw [← h.own] at hmem
  exact List.mem_of_mem_filter hmem

/-- A declared device with the key of a listed device shows a listed device. -/
theorem exists_drawn (h : Roster kind doc calls listed drawn) {d : Device} (hd : d ∈ listed)
    {call : Call} (hcall : call ∈ calls) (hdevice : call.1.entity.isDevice = true)
    (hkey : call.1.key = d.id) : ∃ x ∈ drawn, x.1.id = d.id := by
  have hany : listed.any (·.id == call.1.key) = true :=
    List.any_eq_true.2 ⟨d, hd, by simp [hkey]⟩
  have hmem : call ∈ drawn.map Prod.snd := by
    rw [← h.own]
    exact List.mem_filter.2 ⟨hcall, by simp [hdevice, hany]⟩
  obtain ⟨x, hx, rfl⟩ := List.mem_map.1 hmem
  exact ⟨x, hx, (h.shown x hx).2.key.symm.trans hkey⟩

/-- The table of devices has the first node of the id of a listed device. -/
theorem lookupDevice (h : Roster kind doc calls listed drawn) {c : Canvas} (hc : c.Accounts calls)
    {d : Device} (hd : d ∈ listed) :
    c.lookupDevice d.id = (drawn.find? fun x => x.1.id == d.id).map fun x => x.2.2 := by
  have hcalls : calls.find? (fun call => call.1.entity.isDevice && call.1.key == d.id) =
      (drawn.map Prod.snd).find? fun call => call.1.key == d.id := by
    rw [← h.own, List.find?_filter]
    refine List.find?_congr fun call _ => ?_
    by_cases hkey : call.1.key = d.id
    · have hany : listed.any (·.id == call.1.key) = true :=
        List.any_eq_true.2 ⟨d, hd, by simp [hkey]⟩
      simp [hkey ▸ hany, hkey]
    · simp [hkey]
  have hkeys : drawn.find? (fun x => x.2.1.key == d.id) = drawn.find? fun x => x.1.id == d.id :=
    List.find?_congr fun x hx => by rw [(h.shown x hx).2.key]
  rw [Canvas.lookupDevice, hc.devices, hcalls, List.find?_map, Option.map_map]
  exact congrArg (Option.map _) hkeys

end Roster

end InfraDiagram

import InfraDiagram.Proofs.Agreement
import InfraDiagram.Proofs.Records

/-!
# Connections leave the nodes alone

Two documents that differ in their connections alone are refused alike, or drawn with the same
nodes. What becomes of a record depends on these nodes and on the record itself, and not on the
records around it.

## Main definitions

- `Rewired` — documents of one kind that differ in their connections alone
- `Device.unlinked` — a device without what its ports are connected to
- `SharesNodes` — results that differ in their visible edges and the problems with them alone

## Main statements

- `sharesNodes_of_rewired` — what results with other connections have in common
-/

namespace InfraDiagram

open Dot Connection

-- ════════════════════════════════════════════════════════════════════════
-- Documents with other connections
-- ════════════════════════════════════════════════════════════════════════

/-- Two lists of whatever items, or the same value. -/
def Relisted : Value → Value → Prop :=
  Value.ListsBy fun _ _ => True

/-- Whatever lists under the given keys, and the same values under all others. -/
def RelistedUnder (keys : List String) (key : String) : Value → Value → Prop :=
  if key ∈ keys then Relisted else Eq

theorem RelistedUnder.rel {keys : List String} {m m' : Mapping}
    (h : m.Varies (RelistedUnder keys) m') {key : String} (hkey : key ∈ keys) :
    Option.Rel Relisted (m.get? key) (m'.get? key) :=
  Mapping.Varies.rel h (if_pos hkey)

/-- Mappings whose lists differ hold the same under all other keys. -/
theorem RelistedUnder.eqOff {keys : List String} {m m' : Mapping}
    (h : m.Varies (RelistedUnder keys) m') : m.EqOff keys m' :=
  fun _ hkey => h.get?_eq (if_neg hkey)

theorem RelistedUnder.refl (keys : List String) (key : String) (v : Value) :
    RelistedUnder keys key v v := by
  unfold RelistedUnder
  split_ifs
  · exact Value.ListsBy.refl v
  · rfl

/-- The ports are equal apart from what they are connected to. -/
inductive RewiredPort : Value → Value → Prop where
  | refl (v : Value) : RewiredPort v v
  | mapping {m m' : Mapping} (h : m.EqOff Port.peerKeys m') :
      RewiredPort (.mapping m) (.mapping m')

/-- The devices are equal apart from what their ports are connected to. -/
def RewiredDevice : Value → Value → Prop :=
  Value.MappingsBy fun key =>
    if key ∈ ["ports", "interfaces"] then Value.ListsBy (List.Forall₂ RewiredPort) else Eq

def RewiredDevices : Value → Value → Prop :=
  Value.ListsBy (List.Forall₂ RewiredDevice)

/-- What holds one server or a list of them is equal apart from what the ports of servers are
    connected to. -/
inductive RewiredServers : Value → Value → Prop where
  | one {v v' : Value} (h : RewiredDevice v v') : RewiredServers v v'
  | many {v v' : Value} (h : RewiredDevices v v') : RewiredServers v v'

/-- How the value under a top-level key may differ between documents of a kind if nothing but their
    connections does. -/
def Kind.Rewires : Kind → String → Value → Value → Prop
  | .siteTopology, key | .device, key => RelistedUnder ["connections"] key
  | .siteEquipment, key | .rackServers, key => RelistedUnder cableKeys key
  | .serverDetails, key =>
    if key ∈ cableKeys then Relisted
    else if key ∈ ["server", "servers"] then RewiredServers
    else if key ∈ ["devices", "peers"] then RewiredDevices
    else Eq
  | .topology, key =>
    if key = "connections" then Relisted
    else if key = "topology" then Value.MappingsBy (RelistedUnder ["connections", "links"])
    else Eq
  | .intent, key =>
    if key = "intent" then Value.MappingsBy (RelistedUnder ["flows", "paths"]) else Eq
  | .links, _ | .unknown, _ => Eq

theorem Kind.rewires_ofServerDetails (key : String) : serverDetails.Rewires key =
    if key ∈ cableKeys then Relisted
    else if key ∈ ["server", "servers"] then RewiredServers
    else if key ∈ ["devices", "peers"] then RewiredDevices
    else Eq :=
  rfl

/-- The fields from which the entities of server details are read hold no connections. -/
theorem Kind.rewires_servers {key : String} (h : key ∈ ["server", "servers"]) :
    serverDetails.Rewires key = RewiredServers := by
  have hother : ∀ key ∈ ["server", "servers"], key ∉ cableKeys := by decide
  rw [rewires_ofServerDetails, if_neg (hother key h), if_pos h]

theorem Kind.rewires_cables {key : String} (h : key ∈ cableKeys) :
    serverDetails.Rewires key = Relisted := by
  rw [rewires_ofServerDetails, if_pos h]

theorem Kind.rewires_peers {key : String} (h : key ∈ ["devices", "peers"]) :
    serverDetails.Rewires key = RewiredDevices := by
  have hother : ∀ key ∈ ["devices", "peers"], key ∉ cableKeys ∧
      key ∉ ["server", "servers"] := by decide
  rw [rewires_ofServerDetails, if_neg (hother key h).1, if_neg (hother key h).2, if_pos h]

theorem Kind.rewires_cableTypes : serverDetails.Rewires "cable_types" = Eq := by
  rw [rewires_ofServerDetails, if_neg (by decide), if_neg (by decide), if_neg (by decide)]

theorem Kind.rewires_ofTopology (key : String) : topology.Rewires key =
    if key = "connections" then Relisted
    else if key = "topology" then Value.MappingsBy (RelistedUnder ["connections", "links"])
    else Eq :=
  rfl

theorem Kind.rewires_topology : topology.Rewires "topology" =
    Value.MappingsBy (RelistedUnder ["connections", "links"]) := by
  rw [rewires_ofTopology, if_neg (by decide), if_pos rfl]

theorem Kind.rewires_ofIntent (key : String) : intent.Rewires key =
    if key = "intent" then Value.MappingsBy (RelistedUnder ["flows", "paths"]) else Eq :=
  rfl

theorem Kind.rewires_intent : intent.Rewires "intent" =
    Value.MappingsBy (RelistedUnder ["flows", "paths"]) := by
  rw [rewires_ofIntent, if_pos rfl]

/-- The documents have the same keys, and differ in nothing but the items of the connection lists
    that are read for their kind and, in server details, in what ports are connected to. -/
def Rewired (kind : Kind) (m m' : Mapping) : Prop :=
  m.Varies kind.Rewires m'

-- ════════════════════════════════════════════════════════════════════════
-- Devices without what their ports are connected to
-- ════════════════════════════════════════════════════════════════════════

def Port.unlinked (p : Port) : Port :=
  { p with connectedTo := none }

def Device.unlinked (d : Device) : Device :=
  { d with ports := d.ports.map Port.unlinked }

theorem map_eq_of_forall₂ {α β : Type} {f : α → β} {xs ys : List α}
    (h : List.Forall₂ (fun x y => f x = f y) xs ys) : xs.map f = ys.map f := by
  induction h with
  | nil => rfl
  | cons h _ ih => rw [List.map_cons, List.map_cons, h, ih]

theorem Port.agree_ofValue {v v' : Value} (h : RewiredPort v v') (index : Nat) (path : Path) :
    Agree Eq (fun p p' => p.unlinked = p'.unlinked) (ofValue v index path)
      (ofValue v' index path) := by
  cases h with
  | refl => exact .refl (fun _ => rfl) (fun p => Eq.refl p.unlinked) _
  | mapping h =>
    refine .ok ?_
    simp only [unlinked, h.alike.firstText ["name", "id", "port"] (by decide),
      h.alike.text "label" (by decide), h.alike.text "speed" (by decide)]

theorem Port.agree_listIn {m m' : Mapping} (path : Path)
    (h : ∀ key ∈ ["ports", "interfaces"],
      Option.Rel (Value.ListsBy (List.Forall₂ RewiredPort)) (m.get? key) (m'.get? key)) :
    Agree Eq (fun ps ps' => ps.map unlinked = ps'.map unlinked) (listIn m path)
      (listIn m' path) := by
  have hitems := Field.agree_listAlias (E := Eq) (forall₂_refl RewiredPort.refl)
    (fun key v => (rfl : StructureError.of (path.key key) .list v = _)) h
  apply hitems.bind
  rintro ⟨items, itemsPath⟩ ⟨items', itemsPath'⟩ ⟨hports, key, rfl, rfl⟩
  exact (Agree.mapM_zipIdx hports fun v v' i hv => agree_ofValue hv i _).mono
    fun _ _ => map_eq_of_forall₂

theorem Device.agree_ofValue {v v' : Value} (h : RewiredDevice v v') (parent : String)
    (index : Nat) (path : Path) (defaultType : String) :
    Agree Eq (fun d d' => d.unlinked = d'.unlinked) (ofValue v parent index path defaultType)
      (ofValue v' parent index path defaultType) := by
  cases h with
  | refl => exact .refl (fun _ => rfl) (fun d => Eq.refl d.unlinked) _
  | @mappings m m' h =>
    have hports := Port.agree_listIn path fun key hkey => h.rel (if_pos hkey)
    have hoff : m.EqOff ["ports", "interfaces"] m' := fun key hkey => h.get?_eq (if_neg hkey)
    have hother : ∀ key ∈ RackUnit.keys, key ∉ ["ports", "interfaces"] := by decide
    have hunit := RackUnit.start_congr fun key hkey => hoff key (hother key hkey)
    refine (agree_ofMapping parent index defaultType
      (hoff.alike.mono (List.subset_append_left _ _)) hunit hports).mono fun d d' hd => ?_
    have hrest : { d.unlinked with ports := [] } = { d'.unlinked with ports := [] } := hd.1
    rw [Device.mk.injEq] at hrest
    rw [unlinked, unlinked, Device.mk.injEq, hd.2]
    simpa [unlinked] using hrest

/-- Devices that are listed with other links are read alike up to these. -/
theorem Device.agree_items {items items' : List (Value × Path)} (parent defaultType : String)
    (h : List.Forall₂ (fun a b => RewiredDevice a.1 b.1 ∧ a.2 = b.2) items items') :
    Agree Eq (fun ds ds' => ds.map unlinked = ds'.map unlinked)
      (items.zipIdx.mapM fun ((v, path), i) => ofValue v parent i path defaultType)
      (items'.zipIdx.mapM fun ((v, path), i) => ofValue v parent i path defaultType) := by
  refine (Agree.mapM_zipIdx h fun x y i hxy => ?_).mono fun _ _ => map_eq_of_forall₂
  obtain ⟨hdevice, hpath⟩ := hxy
  change Agree Eq _ (ofValue x.1 parent i x.2 defaultType) (ofValue y.1 parent i y.2 defaultType)
  rw [← hpath]
  exact agree_ofValue hdevice _ _ _ _

theorem Device.agree_listIn (m m' : Mapping) {keys : List String} (parent : String)
    (path : Path) (defaultType : String)
    (h : ∀ key ∈ keys, Option.Rel RewiredDevices (m.get? key) (m'.get? key)) :
    Agree Eq (fun ds ds' => ds.map unlinked = ds'.map unlinked)
      (listIn m keys parent path defaultType) (listIn m' keys parent path defaultType) := by
  have hitems := Field.agree_listAlias (E := Eq) (forall₂_refl Value.MappingsBy.refl)
    (fun key v => (rfl : StructureError.of (path.key key) .list v = _)) h
  apply hitems.bind
  rintro ⟨items, itemsPath⟩ ⟨items', itemsPath'⟩ ⟨hdevices, key, rfl, rfl⟩
  exact (Agree.mapM_zipIdx hdevices fun v v' i hv => agree_ofValue hv parent i _ _).mono
    fun _ _ => map_eq_of_forall₂

theorem RewiredDevice.oneOrManyBy {v v' : Value} (h : RewiredDevice v v') :
    Value.OneOrManyBy RewiredDevice v v' := by
  cases h with
  | refl => exact .refl v
  | mappings h => exact .one trivial trivial (.mappings h)

theorem RewiredServers.oneOrManyBy {v v' : Value} (h : RewiredServers v v') :
    Value.OneOrManyBy RewiredDevice v v' := by
  cases h with
  | one h => exact h.oneOrManyBy
  | many h =>
    cases h with
    | refl => exact .refl v
    | lists h => exact .many h

/-- What the ports of a server are connected to does not matter to how it is drawn. -/
theorem Device.drawPorts_unlinked (d : Device) : d.unlinked.drawPorts = d.drawPorts :=
  List.mapM_map ..

theorem Device.drawServer_unlinked (d : Device) (options : RenderOptions) :
    d.unlinked.drawServer options = d.drawServer options := by
  have hempty : d.unlinked.ports.isEmpty = d.ports.isEmpty := List.isEmpty_map
  have hframe : d.unlinked.drawPortFrame = d.drawPortFrame := by
    unfold drawPortFrame
    rw [d.drawPorts_unlinked]
    rfl
  unfold drawServer
  rw [hempty, hframe]
  rfl

/-- Servers and peers are drawn, and named by connections, whatever their ports are connected
    to. -/
theorem drawServers_unlinked (servers peers : List Device) (options : RenderOptions) :
    drawServers (servers.map Device.unlinked) (peers.map Device.unlinked) options =
      drawServers servers peers options := by
  unfold drawServers
  rw [List.mapM_map, List.mapM_map]
  simp only [Function.comp_def, Device.drawServer_unlinked]
  rfl

theorem Resolver.ofDevices_unlinked (devices : List Device) :
    Resolver.ofDevices (devices.map Device.unlinked) = .ofDevices devices := by
  unfold ofDevices
  rw [List.map_map]
  rfl

-- ════════════════════════════════════════════════════════════════════════
-- Scenes with the same nodes
-- ════════════════════════════════════════════════════════════════════════

/-- The scenes draw the same nodes, and name them alike. -/
structure Scene.SameNodes (s s' : Scene) : Prop where
  nodes : s.nodes = s'.nodes
  resolver : s.resolver = s'.resolver

structure Plan.SameNodes (p p' : Plan) : Prop where
  comments : p.comments = p'.comments
  scene : Agree Eq Scene.SameNodes p.scene p'.scene

theorem Plan.sameNodes_ofScene {s s' : Except StructureError Scene}
    (h : Agree Eq Scene.SameNodes s s') : (ofScene s).SameNodes (ofScene s') :=
  ⟨rfl, h⟩

/-- Lists of whatever records are refused alike. -/
theorem agree_relisted {m m' : Mapping} {key : String} (path : Path)
    (h : Option.Rel Relisted (m.get? key) (m'.get? key)) :
    Agree Eq (fun _ _ => True) (Field.list m key path) (Field.list m' key path) :=
  Field.agree_list (fun _ => trivial) (fun _ => rfl) h

theorem agree_relistedAlias {m m' : Mapping} {keys : List String} (path : Path)
    (h : ∀ key ∈ keys, Option.Rel Relisted (m.get? key) (m'.get? key)) :
    Agree Eq (fun _ _ => True) (Field.listAlias m keys path) (Field.listAlias m' keys path) :=
  (Field.agree_listAlias (fun _ => trivial) (fun _ _ => rfl) h).mono fun _ _ _ => trivial

theorem agree_ofEquipment {m m' : Mapping} (catalog : CableCatalog)
    (h : ∀ key ∈ cableKeys, Option.Rel Relisted (m.get? key) (m'.get? key)) :
    Agree Eq (fun _ _ => True) (ofEquipment m catalog) (ofEquipment m' catalog) := by
  refine (Agree.mapM_same (S := fun _ _ => True) fun list hlist => ?_).bind
    fun _ _ _ => .ok trivial
  exact (agree_relisted .root (h _ (mem_cableKeys hlist))).bind fun _ _ _ => .ok trivial

/-- Racks are read from two fields. -/
theorem Rack.ofDocument_congr {m m' : Mapping} (hrack : m.get? "rack" = m'.get? "rack")
    (hracks : m.get? "racks" = m'.get? "racks") : ofDocument m = ofDocument m' := by
  have hfield : Field.oneOrMany m "rack" "racks" .root =
      Field.oneOrMany m' "rack" "racks" .root := by
    unfold Field.oneOrMany
    rw [Field.isPresent_congr (Mapping.given?_congr hrack)]
    dsimp only
    split_ifs
    · rw [hrack]
    · rw [hracks]
  rw [ofDocument, ofDocument, hfield]

namespace Rewired

variable {m m' : Mapping}

theorem siteTopology (h : Rewired .siteTopology m m') :
    (Plan.sites m).SameNodes (Plan.sites m') := by
  have hoff : m.EqOff ["connections"] m' := RelistedUnder.eqOff h
  have hsites : Site.ofDocument m = Site.ofDocument m' := by
    rw [Site.ofDocument, Site.ofDocument, Field.list_congr (hoff.alike "sites" (by decide))]
  have hconnections := agree_relisted .root
    (RelistedUnder.rel h (List.mem_singleton_self "connections"))
  refine Plan.sameNodes_ofScene (Agree.bind_same (fun _ => rfl) hsites fun sites => ?_)
  exact hconnections.bind fun _ _ _ => .ok ⟨rfl, rfl⟩

/-- The cables of equipment documents are refused alike. -/
theorem cabling (h : m.Varies (RelistedUnder cableKeys) m') :
    Agree Eq (fun _ _ => True) (ofEquipment m (.ofDocument m))
      (ofEquipment m' (.ofDocument m')) := by
  rw [CableCatalog.ofDocument_congr (RelistedUnder.eqOff h "cable_types" (by decide))]
  exact agree_ofEquipment _ fun key hkey => RelistedUnder.rel h hkey

theorem siteEquipment (h : Rewired .siteEquipment m m') (options : RenderOptions) :
    (Plan.siteEquipment m options).SameNodes (Plan.siteEquipment m' options) := by
  have hoff : m.EqOff cableKeys m' := RelistedUnder.eqOff h
  have hracks := Rack.ofDocument_congr (hoff "rack" (by decide)) (hoff "racks" (by decide))
  have hheader : Site.header m = Site.header m' := by
    rw [Site.header, Site.header, hoff "site" (by decide)]
  have hcabling := cabling h
  refine Plan.sameNodes_ofScene (Agree.bind_same (fun _ => rfl) hracks fun racks => ?_)
  refine Agree.bind_same (fun _ => rfl) hheader fun site => ?_
  exact hcabling.bind fun _ _ _ => .ok ⟨rfl, rfl⟩

theorem rackServers (h : Rewired .rackServers m m') (options : RenderOptions) :
    (Plan.rackServers m options).SameNodes (Plan.rackServers m' options) := by
  have hoff : m.EqOff cableKeys m' := RelistedUnder.eqOff h
  have hlisted := Rack.ofDocument_congr (hoff "rack" (by decide)) (hoff "racks" (by decide))
  have hracks : Rack.ofServerDocument m = Rack.ofServerDocument m' := by
    rw [Rack.ofServerDocument, Rack.ofServerDocument, hlisted, hoff "rack_servers" (by decide)]
  have hcabling := cabling h
  refine Plan.sameNodes_ofScene (Agree.bind_same (fun _ => rfl) hracks fun racks => ?_)
  exact hcabling.bind fun _ _ _ => .ok ⟨rfl, rfl⟩

theorem serverDetails (h : Rewired .serverDetails m m') (options : RenderOptions) :
    (Plan.serverDetails m options).SameNodes (Plan.serverDetails m' options) := by
  have hentities := Field.agree_oneOrMany (E := Eq) Value.MappingsBy.refl (fun _ => rfl) m m' .root
    fun key hkey => rel_mono (h.rel (Kind.rewires_servers hkey)) fun _ _ =>
      RewiredServers.oneOrManyBy
  have hlisted := Device.agree_listIn m m' "peer" .root "device" fun key hkey =>
    h.rel (Kind.rewires_peers hkey)
  have hcabling : Agree Eq (fun _ _ => True) (ofEquipment m (.ofDocument m))
      (ofEquipment m' (.ofDocument m')) := by
    rw [CableCatalog.ofDocument_congr (h.get?_eq Kind.rewires_cableTypes)]
    exact agree_ofEquipment _ fun key hkey => h.rel (Kind.rewires_cables hkey)
  refine Plan.sameNodes_ofScene (hentities.bind fun entities entities' hdevices => ?_)
  refine (Device.agree_items "server" "server" hdevices).bind fun servers servers' hservers => ?_
  refine hlisted.bind fun peers peers' hpeers => hcabling.bind fun _ _ _ => .ok ⟨?_, ?_⟩
  · change drawServers servers peers options = drawServers servers' peers' options
    rw [← drawServers_unlinked servers, hservers, hpeers, drawServers_unlinked]
  · change Resolver.ofDevices (servers ++ peers) = .ofDevices (servers' ++ peers')
    rw [← Resolver.ofDevices_unlinked, List.map_append, hservers, hpeers, ← List.map_append,
      Resolver.ofDevices_unlinked]

theorem device (h : Rewired .device m m') (options : RenderOptions) :
    (Plan.device m options).SameNodes (Plan.device m' options) := by
  have hoff : m.EqOff ["connections"] m' := RelistedUnder.eqOff h
  have hconnections := agree_relisted .root
    (RelistedUnder.rel h (List.mem_singleton_self "connections"))
  unfold Plan.device
  rw [← hoff "device" (by decide)]
  split
  · exact ⟨rfl, .ok ⟨rfl, rfl⟩⟩
  · exact ⟨rfl, .ok ⟨rfl, rfl⟩⟩
  · refine Plan.sameNodes_ofScene (Agree.bind_same (fun _ => rfl) rfl fun device => ?_)
    exact hconnections.bind fun _ _ _ => .ok ⟨rfl, rfl⟩

theorem topologyScene {topology topology' : Mapping} (h : Rewired .topology m m')
    (htopology : topology.Varies (RelistedUnder ["connections", "links"]) topology') :
    Agree Eq Scene.SameNodes (InfraDiagram.topologyScene m topology)
      (InfraDiagram.topologyScene m' topology') := by
  have hdevices : Device.listIn topology ["devices", "nodes"] "device"
      (Path.root.key "topology") "device" = Device.listIn topology' ["devices", "nodes"] "device"
      (Path.root.key "topology") "device" := by
    rw [Device.listIn, Device.listIn,
      (RelistedUnder.eqOff htopology).alike.listAlias ["devices", "nodes"] (by decide)]
  have hinner := agree_relistedAlias (Path.root.key "topology") fun key hkey =>
    RelistedUnder.rel htopology hkey
  have houter := agree_relisted .root (h.rel (by rw [Kind.rewires_ofTopology, if_pos rfl]))
  refine Agree.bind_same (fun _ => rfl) hdevices fun devices => ?_
  exact hinner.bind fun _ _ _ => houter.bind fun _ _ _ => .ok ⟨rfl, rfl⟩

theorem topology (h : Rewired .topology m m') :
    (Plan.topology m).SameNodes (Plan.topology m') := by
  have hmarker := Field.agree_mapping (E := Eq) (RelistedUnder.refl _)
    (fun v => (rfl : StructureError.of (Path.root.key "topology") .mapping v = _))
    (h.rel Kind.rewires_topology)
  obtain ⟨hcomments, hscene⟩ := Plan.agree_topology hmarker (R := Scene.SameNodes) ⟨rfl, rfl⟩
    (fun _ _ htopology => (RelistedUnder.eqOff htopology).alike.text "name" (by decide))
    fun _ _ htopology => h.topologyScene htopology
  exact ⟨hcomments, hscene⟩

theorem intentScene {intent intent' : Mapping}
    (h : intent.Varies (RelistedUnder ["flows", "paths"]) intent') :
    Agree Eq Scene.SameNodes (InfraDiagram.intentScene intent)
      (InfraDiagram.intentScene intent') := by
  have hoff := (RelistedUnder.eqOff h).alike
  have hdevices : Device.listIn intent ["devices", "endpoints"] "device" (Path.root.key "intent")
      "device" = Device.listIn intent' ["devices", "endpoints"] "device" (Path.root.key "intent")
      "device" := by
    rw [Device.listIn, Device.listIn, hoff.listAlias ["devices", "endpoints"] (by decide)]
  have hflows := agree_relistedAlias (Path.root.key "intent") fun key hkey =>
    RelistedUnder.rel h hkey
  refine Agree.bind_same (fun _ => rfl) hdevices fun devices => hflows.bind fun _ _ _ => ?_
  refine Agree.bind_same (fun _ => rfl)
    (hoff.listAlias ["goals", "requirements"] (by decide) _) fun goals => .ok ⟨?_, rfl⟩
  simp only [intentNote, hoff.firstText ["name", "id"] (by decide),
    hoff.text "description" (by decide)]

theorem intent (h : Rewired .intent m m') : (Plan.intent m).SameNodes (Plan.intent m') := by
  have hmarker := Field.agree_mapping (E := Eq) (RelistedUnder.refl _)
    (fun v => (rfl : StructureError.of (Path.root.key "intent") .mapping v = _))
    (h.rel Kind.rewires_intent)
  refine Plan.sameNodes_ofScene (hmarker.bind fun o o' hrel => ?_)
  cases hrel with
  | none => exact .ok ⟨rfl, rfl⟩
  | some hintent => exact intentScene hintent

end Rewired

/-- Documents with other connections are drawn by plans with the same nodes. -/
theorem sameNodes_of_rewired {kind : Kind} {m m' : Mapping} (options : RenderOptions)
    (hlinks : kind ≠ .links) (hunknown : kind ≠ .unknown) (h : Rewired kind m m') :
    (Plan.ofKind kind m options).SameNodes (Plan.ofKind kind m' options) := by
  cases kind with
  | siteTopology => exact h.siteTopology
  | siteEquipment => exact h.siteEquipment options
  | rackServers => exact h.rackServers options
  | serverDetails => exact h.serverDetails options
  | topology => exact h.topology
  | device => exact h.device options
  | links => exact absurd rfl hlinks
  | intent => exact h.intent
  | unknown => exact absurd rfl hunknown

-- ════════════════════════════════════════════════════════════════════════
-- Records of documents with other connections
-- ════════════════════════════════════════════════════════════════════════

/-- Where a connection list stands, and how its records are to be read. -/
def RecordList.header (l : RecordList) : Path × Category × CableCatalog :=
  (l.path, l.category, l.catalog)

theorem aliasOf_congr {V : Value → Value → Prop} {m m' : Mapping} {keys : List String}
    (hV : ∀ v v', V v v' → v.isNull = v'.isNull)
    (h : ∀ key ∈ keys, Option.Rel V (m.get? key) (m'.get? key)) :
    aliasOf m keys = aliasOf m' keys := by
  rw [aliasOf, aliasOf,
    Field.find?_isPresent_congr fun key hkey => Field.isPresent_eq_of_rel hV (h key hkey)]

/-- Documents with other connections have their lists at the same places. -/
theorem Rewired.headers {kind : Kind} {m m' : Mapping} (h : Rewired kind m m') :
    (recordLists kind m).map RecordList.header = (recordLists kind m').map RecordList.header := by
  have hequipment : CableCatalog.ofDocument m = .ofDocument m' →
      (RecordList.cables m (.ofDocument m)).map RecordList.header =
        (RecordList.cables m' (.ofDocument m')).map RecordList.header := by
    intro hcatalog
    rw [hcatalog]
    rfl
  have halias : ∀ {keys : List String} {n n' : Mapping}, n.Varies (RelistedUnder keys) n' →
      aliasOf n keys = aliasOf n' keys := fun hrel =>
    aliasOf_congr (fun _ _ => Value.ListsBy.isNull_eq) fun key hkey => RelistedUnder.rel hrel hkey
  cases kind with
  | siteTopology | links | unknown => rfl
  | siteEquipment | rackServers =>
    exact hequipment (CableCatalog.ofDocument_congr
      (RelistedUnder.eqOff h "cable_types" (by decide)))
  | serverDetails =>
    exact hequipment (CableCatalog.ofDocument_congr (h.get?_eq Kind.rewires_cableTypes))
  | device =>
    have hpresent := Field.isPresent_congr ((RelistedUnder.eqOff h).alike "device" (by decide))
    simp only [recordLists, hpresent]
    split_ifs <;> rfl
  | topology =>
    simp only [recordLists]
    obtain ⟨hv, hv'⟩ | ⟨v, v', hv, hv', hrel⟩ :=
      rel_cases (Value.rel_mapping? (RelistedUnder.refl _) (h.rel Kind.rewires_topology))
    · rw [hv, hv']
    · rw [hv, hv']
      simp only [List.map_cons, RecordList.header, RecordList.under, halias hrel, List.map_nil]
  | intent =>
    simp only [recordLists]
    obtain ⟨hv, hv'⟩ | ⟨v, v', hv, hv', hrel⟩ :=
      rel_cases (Value.rel_mapping? (RelistedUnder.refl _) (h.rel Kind.rewires_intent))
    · rw [hv, hv']
    · rw [hv, hv']
      simp only [List.map_cons, RecordList.header, RecordList.under, halias hrel, List.map_nil]

/-- A record is known by its place and its value in all documents with other connections. -/
theorem Rewired.record_eq {kind : Kind} {m m' : Mapping} (h : Rewired kind m m') {r r' : Record}
    (hr : r ∈ recordsOf kind m) (hr' : r' ∈ recordsOf kind m') (hcontext : r.context = r'.context)
    (hvalue : r.value = r'.value) : r = r' := by
  obtain ⟨l, hl, hentry⟩ := List.mem_flatMap.1 hr
  obtain ⟨⟨v, i⟩, -, rfl⟩ := List.mem_map.1 hentry
  obtain ⟨l', hl', hentry'⟩ := List.mem_flatMap.1 hr'
  obtain ⟨⟨v', j⟩, -, rfl⟩ := List.mem_map.1 hentry'
  obtain ⟨k, hk, hheader⟩ := List.mem_map.1 (h.headers ▸ List.mem_map_of_mem hl)
  obtain ⟨hpath, hcategory, hcatalog⟩ : k.path = l.path ∧ k.category = l.category ∧
      k.catalog = l.catalog := by simpa [RecordList.header] using hheader
  -- the list of the same document at the same place is the one that `r'` is from
  obtain ⟨paths, hpaths, hnodup, hbracket⟩ := exists_paths kind m'
  have htext := (index_text_injective (p := l'.path)
    (hbracket _ (hpaths ▸ List.mem_map_of_mem hl')) hcontext.symm).1
  obtain rfl : k = l' := List.inj_on_of_nodup_map (hpaths ▸ hnodup) hk hl' (by rw [hpath, htext])
  rw [Record.mk.injEq]
  exact ⟨hcontext, hcategory.symm, hcatalog.symm, hvalue⟩

-- ════════════════════════════════════════════════════════════════════════
-- Results with other connections
-- ════════════════════════════════════════════════════════════════════════

/-- The nodes are drawn alike and named alike. -/
structure Groundwork.SameNodes (w w' : Groundwork) : Prop where
  resolver : w.scene.resolver = w'.scene.resolver
  places : w.places = w'.places
  canvas : w.canvas = w'.canvas

theorem Plan.SameNodes.groundwork {p p' : Plan} (h : p.SameNodes p') :
    Agree Eq Groundwork.SameNodes p.groundwork p'.groundwork := by
  unfold Plan.groundwork
  refine h.scene.map fun s s' hs => ?_
  rw [h.comments, hs.nodes]
  exact ⟨hs.resolver, rfl, rfl⟩

/-- What becomes of a record depends on the nodes alone. -/
theorem Groundwork.SameNodes.outcome_eq {w w' : Groundwork} (h : w.SameNodes w') (r : Record) :
    w.outcome r = w'.outcome r := by
  unfold outcome looseEnds
  rw [h.resolver, h.canvas]

def Diagnostic.isCollision : Diagnostic → Bool
  | .identifierCollision .. => true
  | _ => false

/-- Only nodes have colliding identifiers. -/
theorem Course.collisions {m : Mapping} {options : RenderOptions} {g : Generated}
    {w : Groundwork} {es : List Event} {l : Log} (h : Course m options g w es l) :
    g.diagnostics.filter Diagnostic.isCollision =
      w.canvas.diagnostics.filter Diagnostic.isCollision := by
  have hnone : w.problems.filter Diagnostic.isCollision = [] := by
    apply List.filter_eq_nil_iff.2
    intro d hd hcollision
    obtain ⟨context, hcontext⟩ := h.exists_context d hd
    cases d <;> simp [Diagnostic.isCollision, Diagnostic.context?] at hcollision hcontext
  rw [h.diagnostics, List.filter_append, hnone, List.append_nil]

/-- The results are of one kind and differ in nothing but their visible edges and the problems with
    their connections. -/
structure SharesNodes (g g' : Generated) : Prop where
  kind : g.kind = g'.kind
  nodeMap : g.nodeMap = g'.nodeMap
  comments : g.diagram.graph.comments = g'.diagram.graph.comments
  nodes : g.diagram.graph.nodes = g'.diagram.graph.nodes
  clusters : g.diagram.graph.clusters = g'.diagram.graph.clusters
  ordering : g.diagram.graph.ordering = g'.diagram.graph.ordering
  sameRank : g.diagram.graph.sameRank = g'.diagram.graph.sameRank
  collisions : g.diagnostics.filter Diagnostic.isCollision =
    g'.diagnostics.filter Diagnostic.isCollision

/-- The records of both documents are settled on the same nodes, and a record that both of them
    have at the same place comes to the same. -/
structure SharesOutcomes (m m' : Mapping) (g g' : Generated) (w w' : Groundwork) : Prop where
  settled : RecordsSettled m g w
  settled' : RecordsSettled m' g' w'
  nodes : w.SameNodes w'
  outcomes : ∀ r ∈ recordsOf g.kind m, ∀ r' ∈ recordsOf g'.kind m', r.context = r'.context →
    r.value = r'.value → w.outcome r = w'.outcome r'

theorem Groundwork.SameNodes.sharesNodes {m m' : Mapping} {options : RenderOptions}
    {g g' : Generated} {w w' : Groundwork} {es es' : List Event} {l l' : Log}
    (h : w.SameNodes w') (hkind : g.kind = g'.kind) (hcourse : Course m options g w es l)
    (hcourse' : Course m' options g' w' es' l') : SharesNodes g g' := by
  have hdiagram := hcourse.diagram
  have hdiagram' := hcourse'.diagram
  rw [Canvas.finish_wired] at hdiagram hdiagram'
  rw [← h.canvas] at hdiagram'
  exact {
    kind := hkind
    nodeMap := by rw [hcourse.nodeMap, hcourse'.nodeMap, h.canvas]
    comments := by rw [hdiagram, hdiagram']
    nodes := by rw [hdiagram, hdiagram']
    clusters := by rw [hdiagram, hdiagram']
    ordering := by rw [hdiagram, hdiagram']
    sameRank := by rw [hdiagram, hdiagram']
    collisions := by rw [hcourse.collisions, hcourse'.collisions, h.canvas] }

/-- **Connections never change the nodes.** Documents that differ in their connections alone are
    refused with the same error or drawn with the same nodes, and a record comes to the same
    whatever other records there are. -/
theorem sharesNodes_of_rewired {m m' : Mapping} (options : RenderOptions)
    (hlinks : classifyMapping m ≠ .links) (hunknown : classifyMapping m ≠ .unknown)
    (h : Rewired (classifyMapping m) m m') :
    (∀ e, generate (.mapping m) options = .error e ↔
      generate (.mapping m') options = .error e) ∧
    ∀ g g', generate (.mapping m) options = .ok g → generate (.mapping m') options = .ok g' →
      SharesNodes g g' ∧ ∃ w w', (Plan.ofKind g.kind m options).groundwork = .ok w ∧
        (Plan.ofKind g'.kind m' options).groundwork = .ok w' ∧
        SharesOutcomes m m' g g' w w' := by
  have hkind : classifyMapping m = classifyMapping m' := h.classify_eq
  have hground := (sameNodes_of_rewired options hlinks hunknown h).groundwork
  constructor
  · have hdrawn : Agree Eq (fun _ _ => True) (generate (.mapping m) options)
        (generate (.mapping m') options) := by
      simp only [generate, drawDocument_eq, ← hkind]
      exact (hground.map fun _ _ _ => trivial).map (R := fun _ _ => True) fun _ _ _ => trivial
    exact hdrawn.error_iff
  · intro g g' hg hg'
    obtain ⟨m₀, w, es, l, hm, hcourse⟩ := exists_course hg
    obtain ⟨m₁, w', es', l', hm', hcourse'⟩ := exists_course hg'
    cases hm
    cases hm'
    have hkinds : g.kind = g'.kind := by rw [hcourse.kind, hcourse'.kind, hkind]
    have hnodes : w.SameNodes w' := by
      have hw := hcourse.groundwork
      have hw' := hcourse'.groundwork
      rw [hcourse.kind] at hw
      rw [hcourse'.kind, ← hkind] at hw'
      rw [hw, hw'] at hground
      cases hground with
      | ok h => exact h
    refine ⟨hnodes.sharesNodes hkinds hcourse hcourse', w, w', hcourse.groundwork,
      hcourse'.groundwork, hcourse.recordsSettled, hcourse'.recordsSettled, hnodes, ?_⟩
    intro r hr r' hr' hcontext hvalue
    rw [hcourse.kind] at hr
    rw [hcourse'.kind, ← hkind] at hr'
    rw [h.record_eq hr hr' hcontext hvalue, hnodes.outcome_eq]

/-- Two servers whose port and records name each other. -/
def cabled : Mapping :=
  [("servers", .list [
    .mapping [("id", .text "s1"), ("ports", .list [
      .mapping [("name", .text "e0"), ("connected_to", .text "s2")]])],
    .text "s2"]),
    ("connections", .list [
      .mapping [("from", .text "s1"), ("to", .text "s2")],
      .mapping [("from", .text "s2"), ("to", .text "s1")]]),
    ("power_connections", .list [.mapping [("from", .text "s2"), ("to", .text "s1")]])]

/-- The same servers with a loose port, with another record in front of the second one, and without
    power between them. -/
def recabled : Mapping :=
  [("servers", .list [
    .mapping [("id", .text "s1"), ("ports", .list [
      .mapping [("name", .text "e0"), ("connected_to", .text "s3")]])],
    .text "s2"]),
    ("connections", .list [
      .text "s1-s2",
      .mapping [("from", .text "s2"), ("to", .text "s1")]]),
    ("power_connections", .list [.text "s2-s1"])]

theorem rewired_recabled : Rewired (classifyMapping cabled) cabled recabled := by
  have hkind : classifyMapping cabled = .serverDetails := by decide
  have hport : RewiredPort (.mapping [("name", .text "e0"), ("connected_to", .text "s2")])
      (.mapping [("name", .text "e0"), ("connected_to", .text "s3")]) := by
    refine .mapping fun key hkey => ?_
    have hother : key ≠ "connected_to" := fun h => hkey (by rw [h]; decide)
    simp only [Mapping.get?, List.lookup_cons, beq_eq_false_iff_ne.2 hother]
  have hserver : RewiredDevice
      (.mapping [("id", .text "s1"), ("ports", .list [
        .mapping [("name", .text "e0"), ("connected_to", .text "s2")]])])
      (.mapping [("id", .text "s1"), ("ports", .list [
        .mapping [("name", .text "e0"), ("connected_to", .text "s3")]])]) := by
    refine .mappings (.cons (by rw [if_neg (by decide)]) (.cons ?_ .nil))
    rw [if_pos (by decide)]
    exact .lists (.cons hport .nil)
  rw [hkind]
  refine .cons ?_ (.cons ?_ (.cons ?_ .nil))
  · rw [Kind.rewires_servers (by decide)]
    exact .many (.lists (.cons hserver (.cons (.refl _) .nil)))
  · rw [Kind.rewires_cables (by decide)]
    exact .lists trivial
  · rw [Kind.rewires_cables (by decide)]
    exact .lists trivial

theorem sharesNodes_recabled : ∃ g g', generate (.mapping cabled) .standard = .ok g ∧
    generate (.mapping recabled) .standard = .ok g' ∧
    g.diagram.graph.edges.map (fun e => (e.source, e.target)) =
      [("s1", "s2"), ("s2", "s1"), ("s2", "s1"), ("\"s1:e0\"", "s2")] ∧
    g'.diagram.graph.edges.map (fun e => (e.source, e.target)) = [("s2", "s1")] ∧
    SharesNodes g g' ∧ ∃ w w', SharesOutcomes cabled recabled g g' w w' := by
  have hedges : ((generate (.mapping cabled) .standard).toOption.map fun g =>
      g.diagram.graph.edges.map fun e => (e.source, e.target)) =
      some [("s1", "s2"), ("s2", "s1"), ("s2", "s1"), ("\"s1:e0\"", "s2")] := by decide +kernel
  have hedges' : ((generate (.mapping recabled) .standard).toOption.map fun g =>
      g.diagram.graph.edges.map fun e => (e.source, e.target)) = some [("s2", "s1")] := by
    decide +kernel
  obtain ⟨g, hg, hgedges⟩ := exists_of_toOption_map hedges
  obtain ⟨g', hg', hgedges'⟩ := exists_of_toOption_map hedges'
  obtain ⟨hshares, w, w', -, -, houtcomes⟩ := (sharesNodes_of_rewired .standard (by decide)
    (by decide) rewired_recabled).2 g g' hg hg'
  exact ⟨g, g', hg, hg', hgedges, hgedges', hshares, w, w', houtcomes⟩

end InfraDiagram

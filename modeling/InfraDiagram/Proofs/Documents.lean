import InfraDiagram.Proofs.Drawings
import InfraDiagram.Proofs.Scenes

/-!
# From documents to scenes

What the plan for a document comes to when the document is read without an error: the connection
lists that are read, and the nodes that are drawn.

## Main definitions

- `RecordList`, `recordLists` — the connection lists of a document of a given kind
- `Kind.linksPorts`, `Kind.warnings` — what differs between kinds
- `Portrays` — a scene that shows a document

## Main statements

- `portrays_of_scene` — the scene of a plan shows its document
-/

namespace InfraDiagram

open Dot Connection

/-- A traversal that succeeds does so item by item. -/
theorem forall₂_of_mapM {ε α β : Type} {f : α → Except ε β} {xs : List α} {ys : List β}
    (h : xs.mapM f = .ok ys) : List.Forall₂ (fun x y => f x = .ok y) xs ys := by
  induction xs generalizing ys with
  | nil =>
    cases h
    exact .nil
  | cons x xs ih =>
    rw [List.mapM_cons] at h
    obtain ⟨y, hy, h⟩ := exists_of_bind_eq_ok h
    obtain ⟨ys', hys, h⟩ := exists_of_bind_eq_ok h
    cases h
    exact .cons hy (ih hys)

theorem map_of_mapM {ε α β γ : Type} {f : α → Except ε β} {k : β → γ} {g : α → γ}
    (hk : ∀ x y, f x = .ok y → k y = g x) {xs : List α} {ys : List β}
    (h : xs.mapM f = .ok ys) : ys.map k = xs.map g := by
  have hmaps : List.Forall₂ (· = ·) (xs.map g) (ys.map k) := by
    rw [List.forall₂_map_left_iff, List.forall₂_map_right_iff]
    exact (forall₂_of_mapM h).imp fun x y hy => (hk x y hy).symm
  rw [List.forall₂_eq_eq_eq] at hmaps
  exact hmaps.symm

theorem forall_of_mapM {ε α β : Type} {f : α → Except ε β} {P : β → Prop}
    (hP : ∀ x y, f x = .ok y → P y) {xs : List α} {ys : List β} (h : xs.mapM f = .ok ys) :
    ∀ y ∈ ys, P y := by
  have hall := forall₂_of_mapM h
  intro y hy
  obtain ⟨i, hi, rfl⟩ := List.mem_iff_getElem.1 hy
  exact hP _ _ (hall.get (hall.length_eq.symm ▸ hi) hi)

theorem exists_getElem?_of_mapM {ε α β : Type} {f : α → Except ε β} {xs : List α} {ys : List β}
    (h : xs.mapM f = .ok ys) {i : Nat} {x : α} (hx : xs[i]? = some x) :
    ∃ y, ys[i]? = some y ∧ f x = .ok y := by
  have hall := forall₂_of_mapM h
  obtain ⟨hi, rfl⟩ := List.getElem?_eq_some_iff.1 hx
  have hlt : i < ys.length := hall.length_eq ▸ hi
  exact ⟨_, List.getElem?_eq_getElem hlt, hall.get hi hlt⟩

/-- A list of connection records where it stands in a document. -/
structure RecordList where
  path : Path
  category : Category
  catalog : CableCatalog
  records : List Value

/-- The items of a list field; anything but a list has none. -/
def itemsUnder (m : Mapping) (key : String) : List Value :=
  ((m.get? key).bind Value.list?).getD []

/-- The first key that holds anything, or the first one of all. -/
def aliasOf (m : Mapping) (keys : List String) : String :=
  (keys.find? (Field.isPresent m)).getD (keys.head?.getD "")

namespace RecordList

def under (m : Mapping) (key : String) (category : Category) (path : Path)
    (catalog : CableCatalog) : RecordList :=
  ⟨path.key key, category, catalog, itemsUnder m key⟩

def decoded (l : RecordList) : Decoded :=
  decodeList l.records l.category l.path l.catalog

def decodedAll (ls : List RecordList) : Decoded :=
  (ls.map decoded).foldr (· ++ ·) .empty

end RecordList

/-- The connection lists of an equipment document, in order, with the sort of their connections. -/
def RecordList.cables (doc : Mapping) (catalog : CableCatalog) : List RecordList :=
  [.under doc "connections" .link .root catalog,
    .under doc "power_connections" .power .root catalog,
    .under doc "data_connections" .data .root catalog,
    .under doc "optional_connections" .optional .root catalog]

/-- The lists that are read from equipment documents are those of cables. -/
theorem RecordList.map_equipmentLists (doc : Mapping) (catalog : CableCatalog) :
    (equipmentLists.map fun list => under doc list.1 list.2 .root catalog) = cables doc catalog :=
  rfl

/-- The connection lists that are read from a document of a given kind, in order. -/
def recordLists (kind : Kind) (doc : Mapping) : List RecordList :=
  match kind with
  | .siteTopology => [.under doc "connections" .site .root .empty]
  | .siteEquipment | .rackServers | .serverDetails =>
    RecordList.cables doc (.ofDocument doc)
  | .topology =>
    match (doc.get? "topology").bind Value.mapping? with
    | some topology =>
      [.under topology (aliasOf topology ["connections", "links"]) .link
          (Path.root.key "topology") .empty,
        .under doc "connections" .link .root .empty]
    | none => []
  | .device =>
    if Field.isPresent doc "device" then [.under doc "connections" .link .root .empty] else []
  | .links => [.under doc "links" .link .root .empty]
  | .intent =>
    match (doc.get? "intent").bind Value.mapping? with
    | some intent =>
      [.under intent (aliasOf intent ["flows", "paths"]) .flow (Path.root.key "intent") .empty]
    | none => []
  | .unknown => []

theorem Field.items_of_list {m : Mapping} {key : String} {path : Path} {items : List Value}
    (h : Field.list m key path = .ok items) : items = itemsUnder m key := by
  unfold Field.list at h
  unfold itemsUnder
  split at h
  · rename_i heq
    simpa [heq] using h.symm
  · rename_i heq
    simpa [heq, Value.list?] using h.symm
  · rename_i heq
    simpa [heq, Value.list?] using h.symm
  · simp at h

/-- A key that holds nothing has no items. -/
theorem itemsUnder_of_not_isPresent {m : Mapping} {key : String}
    (h : Field.isPresent m key = false) : itemsUnder m key = [] := by
  unfold itemsUnder
  cases hget : m.get? key with
  | none => rfl
  | some v => cases v <;> simp_all [Field.isPresent, Value.isNull, Value.list?]

theorem Field.items_of_listAlias {m : Mapping} {key : String} {rest : List String} {path : Path}
    {items : List Value × Path} (h : Field.listAlias m (key :: rest) path = .ok items) :
    items = (itemsUnder m (aliasOf m (key :: rest)), path.key (aliasOf m (key :: rest))) := by
  unfold Field.listAlias at h
  split at h
  · rename_i found heq
    cases hlist : Field.list m found path with
    | error e => simp [hlist, Except.map] at h
    | ok xs =>
      simp only [hlist, Except.map, Except.ok.injEq] at h
      simp only [aliasOf, heq, Option.getD_some, ← h, Field.items_of_list hlist]
  · rename_i heq
    have hfirst : Field.isPresent m key = false := by
      simpa using List.find?_eq_none.1 heq key (by simp)
    simp only [Except.ok.injEq, List.head?_cons, Option.getD_some] at h
    simp only [aliasOf, heq, Option.getD_none, List.head?_cons, Option.getD_some, ← h,
      itemsUnder_of_not_isPresent hfirst]

theorem Field.mapping_eq_ok {value : Option Value} {path : Path} {m : Option Mapping}
    (h : Field.mapping value path = .ok m) : m = value.bind Value.mapping? := by
  unfold Field.mapping at h
  split at h
  · simpa using h.symm
  · simpa [Value.mapping?] using h.symm
  · simpa [Value.mapping?] using h.symm
  · simp at h

namespace Connection

theorem Decoded.append_nothing (a : Decoded) : a ++ (⟨[], []⟩ : Decoded) = a := by
  obtain ⟨connections, problems⟩ := a
  change Decoded.mk (connections ++ []) (problems ++ []) = _
  simp only [List.append_nil]

end Connection

/-- The lists of an equipment document are read in their order. -/
theorem decoded_of_ofEquipment {doc : Mapping} {catalog : CableCatalog} {d : Decoded}
    (h : ofEquipment doc catalog = .ok d) :
    d = RecordList.decodedAll (RecordList.cables doc catalog) := by
  -- the induction needs the lists to vary
  have hlists : ∀ (lists : List (String × Category)) (ds : List Decoded),
      (lists.mapM fun list => do
        let records ← Field.list doc list.1 .root
        return decodeList records list.2 (Path.root.key list.1) catalog) = Except.ok ds →
      ds = (lists.map fun list =>
        RecordList.under doc list.1 list.2 .root catalog).map RecordList.decoded := by
    intro lists
    induction lists with
    | nil =>
      intro ds hds
      simpa [pure, Except.pure] using hds.symm
    | cons list lists ih =>
      intro ds hds
      rw [List.mapM_cons] at hds
      obtain ⟨first, hfirst, hds⟩ := exists_of_bind_eq_ok hds
      obtain ⟨rest, hrest, hds⟩ := exists_of_bind_eq_ok hds
      obtain ⟨records, hrecords, hfirst⟩ := exists_of_bind_eq_ok hfirst
      cases hfirst
      cases hds
      rw [ih rest hrest, Field.items_of_list hrecords]
      rfl
  obtain ⟨ds, hds, hd⟩ := exists_of_bind_eq_ok h
  cases hd
  rw [hlists _ _ hds, RecordList.map_equipmentLists]
  rfl

/-- Whether devices are linked to their ports by visible lines. -/
def Kind.linksPorts : Kind → Bool
  | .siteEquipment | .rackServers => true
  | _ => false

/-- The warnings about a document as a whole. -/
def Kind.warnings (kind : Kind) (doc : Mapping) : List Diagnostic :=
  if kind = .unknown then [.unknownSchema doc.keys] else []

/-- The scene reads the connection lists of the document, lets ports declare connections only in
    server details, and draws the entities whose places it returns. -/
structure Portrays (kind : Kind) (doc : Mapping) (scene : Scene) : Prop where
  links : scene.links = RecordList.decodedAll (recordLists kind doc)
  portLinks : scene.portLinks = [] ∨ kind = .serverDetails ∧
    ∃ servers, scene.portLinks = InfraDiagram.portLinks servers
  nodes : Draws [] scene.nodes fun l ps =>
    ∃ l', Places kind.linksPorts l' ps ∧ l = l' ++ ⟨[], [], kind.warnings doc⟩

namespace Portrays

variable {kind : Kind} {doc : Mapping} {scene : Scene} {options : RenderOptions}

/-- A scene whose nodes are drawn without warnings. -/
theorem of_places (hwarnings : kind.warnings doc = [])
    (links : scene.links = RecordList.decodedAll (recordLists kind doc))
    (portLinks : scene.portLinks = [] ∨ kind = .serverDetails ∧
      ∃ servers, scene.portLinks = InfraDiagram.portLinks servers)
    (nodes : Draws [] scene.nodes (Places kind.linksPorts)) : Portrays kind doc scene where
  links := links
  portLinks := portLinks
  nodes := nodes.mono fun l _ h => ⟨l, h, by rw [hwarnings]; exact l.append_empty.symm⟩

/-- A document whose marker holds null shows nothing. -/
theorem nothing (hwarnings : kind.warnings doc = []) (hlists : recordLists kind doc = []) :
    Portrays kind doc .nothing :=
  of_places hwarnings (by rw [hlists]; rfl) (.inl rfl) (Draws.pure .nil)

end Portrays

/-- The scene of a plan shows its document. -/
theorem portrays_of_scene {kind : Kind} {doc : Mapping} {options : RenderOptions} {scene : Scene}
    (h : (Plan.ofKind kind doc options).scene = .ok scene) : Portrays kind doc scene := by
  cases Stages.of_scene h with
  | @siteTopology sites records hsites hrecords =>
    refine .of_places rfl ?_ (.inl rfl) (draws_sites sites)
    rw [Field.items_of_list hrecords]
    exact (Decoded.append_nothing _).symm
  | @siteEquipment racks site cabling hracks hsite hcabling =>
    exact .of_places rfl (decoded_of_ofEquipment hcabling) (.inl rfl)
      (draws_rackDiagram site racks rfl options)
  | @rackServers racks cabling hracks hcabling =>
    exact .of_places rfl (decoded_of_ofEquipment hcabling) (.inl rfl)
      (draws_rackDiagram none racks rfl options)
  | @serverDetails entities servers peers cabling hentities hservers hpeers hcabling =>
    exact .of_places rfl (decoded_of_ofEquipment hcabling) (.inr ⟨rfl, servers, rfl⟩)
      (draws_servers servers peers options)
  | @topology topology devices inner outer innerPath hmarker hdevices hinner houter =>
    refine .of_places rfl ?_ (.inl rfl) (draws_zoned devices)
    obtain ⟨rfl, rfl⟩ := Prod.mk.inj (Field.items_of_listAlias hinner)
    simp only [recordLists, ← Field.mapping_eq_ok hmarker]
    rw [Field.items_of_list houter]
    exact congrArg (_ ++ ·) (Decoded.append_nothing _).symm
  | nullTopology hmarker =>
    exact .nothing rfl (by simp only [recordLists, ← Field.mapping_eq_ok hmarker])
  | @device value device records hmarker hvalue hdevice hrecords =>
    have hpresent : Field.isPresent doc "device" = true := by
      cases value with
      | null => exact absurd rfl hvalue
      | _ => simp [Field.isPresent, hmarker, Value.isNull]
    refine .of_places rfl ?_ (.inl rfl)
      ((draws_stack device options).map fun _ _ hplace => hplace)
    rw [Field.items_of_list hrecords]
    simp only [recordLists, hpresent]
    exact (Decoded.append_nothing _).symm
  | nullDevice hmarker =>
    refine .nothing rfl ?_
    rcases hmarker with hmarker | hmarker
    · simp [recordLists, Field.isPresent, hmarker]
    · simp [recordLists, Field.isPresent, hmarker, Value.isNull]
  | links hrecords hknown =>
    refine .of_places rfl ?_ (.inl rfl) (draws_implied _)
    rw [Field.items_of_list hrecords]
    exact (Decoded.append_nothing _).symm
  | @intent intent devices flows goals flowsPath goalsPath hmarker hdevices hflows hgoals =>
    refine .of_places rfl ?_ (.inl rfl) (draws_intent rfl Style.isPrintable_intent devices)
    obtain ⟨rfl, rfl⟩ := Prod.mk.inj (Field.items_of_listAlias hflows)
    simp only [recordLists, ← Field.mapping_eq_ok hmarker]
    exact (Decoded.append_nothing _).symm
  | nullIntent hmarker =>
    exact .nothing rfl (by simp only [recordLists, ← Field.mapping_eq_ok hmarker])
  | unknown =>
    exact {
      links := rfl
      portLinks := .inl rfl
      nodes := (Draws.warn _).map fun l _ hl => ⟨.empty, .nil, hl⟩ }

end InfraDiagram

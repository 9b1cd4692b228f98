import InfraDiagram.Proofs.Revisions
import InfraDiagram.Proofs.Runs

/-!
# Revised documents

Documents that differ by a revision of their entities, connection records and ends are drawn alike
if every single description is read like the one that it stands for.

## Main definitions

- `Plan.Alike` — plans with the same comments and the same scene, or with errors in its place

## Main statements

- `Revision.IsRead.agree_generate` — documents that differ by a revision are drawn alike
-/

namespace InfraDiagram

open Dot Connection
open Relation (ReflGen)

-- ════════════════════════════════════════════════════════════════════════
-- Parts of documents
-- ════════════════════════════════════════════════════════════════════════

theorem Site.header_eq_none {doc : Mapping} {v : Value} (hget : doc.get? "site" = some v)
    (hv : v.isNull = true) : header doc = .ok none := by
  unfold header
  rw [hget]
  cases v with
  | null => rfl
  | bool | number | text | list | mapping => cases hv

theorem Site.header_eq_map {doc : Mapping} {v : Value} (hget : doc.get? "site" = some v)
    (hv : v.isNull = false) :
    header doc = (ofValue v "site" (Path.root.key "site")).map some := by
  unfold header
  rw [hget]
  cases v with
  | null => cases hv
  | bool | number | text | list | mapping => rfl

namespace Revision.IsRead

open Value (ListsBy MappingsBy OneOrManyBy MembersBy)

variable {χ : Revision} {T : Tolerance} (hχ : χ.IsRead T) {m m' : Mapping} {p p' : Path}
include hχ

/-- Records that are listed under the same key are decoded alike. -/
theorem agree_records {key : String} (h : Option.Rel χ.InRecords (m.get? key) (m'.get? key))
    (category : Category) (catalog : CableCatalog) :
    Agree T.error
      (fun rs rs' => ∀ path, decodeList rs category path catalog =
        decodeList rs' category path catalog)
      (Field.list m key p) (Field.list m' key p) := by
  have hlist := Field.agree_list (forall₂_refl Value.Revised.refl)
    (fun v => T.of .list v (T.path_refl (p.key key))) h
  exact hlist.mono fun rs rs' hrs path => hχ.decodeList_eq hrs category path catalog

theorem agree_recordsAlias {keys : List String}
    (h : ∀ key ∈ keys, Option.Rel χ.InRecords (m.get? key) (m'.get? key)) (category : Category)
    (catalog : CableCatalog) :
    Agree T.error
      (fun a b => decodeList a.1 category a.2 catalog = decodeList b.1 category b.2 catalog)
      (Field.listAlias m keys p) (Field.listAlias m' keys p) := by
  have hlist := Field.agree_listAlias (forall₂_refl Value.Revised.refl)
    (fun key v => T.of .list v (T.path_refl (p.key key))) h
  refine hlist.mono ?_
  rintro ⟨rs, -⟩ ⟨rs', -⟩ ⟨hrs, key, rfl, rfl⟩
  exact hχ.decodeList_eq hrs category _ catalog

theorem agree_cabling
    (h : ∀ key ∈ cableKeys, Option.Rel χ.InRecords (m.get? key) (m'.get? key))
    (hcatalog : m.get? "cable_types" = m'.get? "cable_types") :
    Agree T.error Eq (ofEquipment m (.ofDocument m)) (ofEquipment m' (.ofDocument m')) := by
  rw [CableCatalog.ofDocument_congr hcatalog]
  refine (Agree.mapM_same (S := Eq) fun list hlist => ?_).bind fun ds ds' hds => .ok ?_
  · exact (hχ.agree_records (h _ (mem_cableKeys hlist)) list.2 _).bind
      fun rs rs' hrs => .ok (hrs _)
  · rw [List.forall₂_eq_eq_eq] at hds
    rw [hds]

theorem agree_sites
    (h : Option.Rel (ListsBy (List.Forall₂ (ReflGen χ.site))) (m.get? "sites")
      (m'.get? "sites")) : Agree T.error Eq (Site.ofDocument m) (Site.ofDocument m') := by
  have hitems := Field.agree_list (forall₂_refl fun _ => ReflGen.refl)
    (fun v => T.of .list v (T.path_refl (Path.root.key "sites"))) h
  refine hitems.bind fun items items' hsites => ?_
  exact Agree.mapM_zipIdx_eq hsites fun v v' i hv => hχ.agree_site hv _ (T.path_refl _)

theorem agree_header (h : Option.Rel (ReflGen χ.site) (m.get? "site") (m'.get? "site")) :
    Agree T.error Eq (Site.header m) (Site.header m') := by
  obtain ⟨hv, hv'⟩ | ⟨v, v', hv, hv', hrel⟩ := rel_cases h
  · unfold Site.header
    rw [hv, hv']
    exact .ok rfl
  · have hnull := hχ.isNull_site hrel
    cases hv₀ : v.isNull with
    | true =>
      rw [Site.header_eq_none hv hv₀, Site.header_eq_none hv' (hnull ▸ hv₀)]
      exact .ok rfl
    | false =>
      rw [Site.header_eq_map hv hv₀, Site.header_eq_map hv' (hnull ▸ hv₀)]
      exact (hχ.agree_site hrel "site" (T.path_refl _)).map fun _ _ hs => congrArg some hs

/-- Racks that are found at corresponding places are read alike. -/
theorem agree_racks
    (h : Agree T.error (List.Forall₂ fun a b => χ.InRack a.1 b.1 ∧ T.path a.2 b.2)
      (Field.oneOrMany m "rack" "racks" .root) (Field.oneOrMany m' "rack" "racks" .root)) :
    Agree T.error Eq (Rack.ofDocument m) (Rack.ofDocument m') := by
  refine h.bind fun entities entities' hentities => ?_
  exact Agree.mapM_zipIdx_eq hentities fun a b i hab => hχ.agree_rack hab.1 i hab.2

theorem agree_entry {v v' : Value} (h : χ.InEntry v v') :
    Agree T.error (fun a b => List.Forall₂ χ.InDevice a.1 b.1 ∧ a.2 = b.2)
      (Rack.serverEntry v p) (Rack.serverEntry v' p) := by
  have hsame : ∀ items, List.Forall₂ χ.InDevice items items := forall₂_refl Value.Revised.refl
  have hrefl : ∀ v, Agree T.error (fun a b => List.Forall₂ χ.InDevice a.1 b.1 ∧ a.2 = b.2)
      (Rack.serverEntry v p) (Rack.serverEntry v p) :=
    fun v => .refl T.error_refl (fun a => ⟨hsame a.1, rfl⟩) _
  cases h with
  | servers h =>
    cases h with
    | refl => exact hrefl v
    | lists h => exact .ok ⟨h, rfl⟩
  | entry h =>
    cases h with
    | whole h =>
      exact (hχ.entry _ _ h p p (T.path_refl p)).mono fun a b hab => hab ▸ ⟨hsame a.1, rfl⟩
    | fields h =>
      cases h with
      | refl => exact hrefl v
      | @mappings m m' h =>
        have hoff : m.EqOff ["servers"] m' := ByField.eqOff h
        have hitems := Field.agree_list (forall₂_refl Value.Revised.refl)
          (fun v => T.of .list v (T.path_refl (p.key "servers")))
          (ByField.rel_single h 0 rfl (by simp))
        exact hitems.map fun items items' hservers =>
          ⟨hservers, hoff.alike.firstText ["label", "name"] (by decide)⟩

theorem agree_mountEntry {member member' : String × Value} (hkey : member.1 = member'.1)
    (h : χ.InEntry member.2 member'.2) (racks : List Rack) :
    Agree T.error Eq (Rack.mountEntry racks member) (Rack.mountEntry racks member') := by
  obtain ⟨id, v⟩ := member
  obtain ⟨id', v'⟩ := member'
  obtain rfl : id = id' := hkey
  refine (hχ.agree_entry h).bind ?_
  rintro ⟨items, label⟩ ⟨items', label'⟩ ⟨hitems, hlabel⟩
  obtain rfl : label = label' := hlabel
  refine (hχ.agree_items hitems id _ (by decide) (T.path_refl _)).bind fun devices devices' hd => ?_
  rw [hd]
  exact .ok rfl

theorem agree_rackServers (hracks : Agree T.error Eq (Rack.ofDocument m) (Rack.ofDocument m'))
    (h : Option.Rel (MembersBy fun _ => χ.InEntry) (m.get? "rack_servers")
      (m'.get? "rack_servers")) :
    Agree T.error Eq (Rack.ofServerDocument m) (Rack.ofServerDocument m') := by
  have hentries := Field.agree_mapping_of
    (S := Mapping.Memberwise fun _ => χ.InEntry)
    (.refl fun _ v => .servers (.refl v))
    (fun v => T.of .mapping v (T.path_refl (Path.root.key "rack_servers")))
    (fun v v' hv => by
      cases hv with
      | refl => exact .inl rfl
      | members hm => exact .inr ⟨_, _, rfl, rfl, hm⟩) h
  refine hracks.bind fun racks racks' hr => hentries.bind fun o o' ho => ?_
  subst hr
  cases ho with
  | none => exact .ok rfl
  | some hm => exact .foldlM hm (fun s x y hxy => hχ.agree_mountEntry hxy.1 hxy.2 s) racks

end Revision.IsRead

-- ════════════════════════════════════════════════════════════════════════
-- Plans
-- ════════════════════════════════════════════════════════════════════════

/-- The plans write the same comments, and draw the same scene or fail alike. -/
structure Plan.Alike (E : StructureError → StructureError → Prop) (q q' : Plan) : Prop where
  comments : q.comments = q'.comments
  scene : Agree E Eq q.scene q'.scene

namespace Plan

variable {E : StructureError → StructureError → Prop} {m m' : Mapping} {options : RenderOptions}

theorem alike_ofScene {s s' : Except StructureError Scene} (h : Agree E Eq s s') :
    (ofScene s).Alike E (ofScene s') :=
  ⟨rfl, h⟩

/-- Documents with such plans are drawn alike. -/
theorem Alike.agree_generate (hkind : classifyMapping m = classifyMapping m')
    (h : (ofKind (classifyMapping m) m options).Alike E (ofKind (classifyMapping m) m' options)) :
    Agree E Eq (generate (.mapping m) options) (generate (.mapping m') options) := by
  have hground : Agree E Eq (ofKind (classifyMapping m) m options).groundwork
      (ofKind (classifyMapping m) m' options).groundwork := by
    unfold groundwork
    rw [h.comments]
    exact h.scene.map fun s s' hs => by rw [hs]
  simp only [generate, drawDocument_eq, ← hkind]
  exact (hground.map (S := Eq) fun w w' hw => by rw [hw]).map fun d d' hd => by rw [hd]

theorem alike_siteEquipment
    (hracks : Agree E Eq (Rack.ofDocument m) (Rack.ofDocument m'))
    (hsite : Agree E Eq (Site.header m) (Site.header m'))
    (hcabling : Agree E Eq (ofEquipment m (.ofDocument m)) (ofEquipment m' (.ofDocument m'))) :
    (siteEquipment m options).Alike E (siteEquipment m' options) := by
  refine alike_ofScene (hracks.bind fun racks racks' hr => hsite.bind fun site site' hs =>
    hcabling.bind fun cabling cabling' hc => ?_)
  rw [hr, hs, hc]
  exact .ok rfl

theorem alike_rackServers
    (hracks : Agree E Eq (Rack.ofServerDocument m) (Rack.ofServerDocument m'))
    (hcabling : Agree E Eq (ofEquipment m (.ofDocument m)) (ofEquipment m' (.ofDocument m'))) :
    (rackServers m options).Alike E (rackServers m' options) := by
  refine alike_ofScene (hracks.bind fun racks racks' hr =>
    hcabling.bind fun cabling cabling' hc => ?_)
  rw [hr, hc]
  exact .ok rfl

theorem alike_serverDetails {R : List (Value × Path) → List (Value × Path) → Prop}
    (hentities : Agree E R (Field.oneOrMany m "server" "servers" .root)
      (Field.oneOrMany m' "server" "servers" .root))
    (hservers : ∀ entities entities', R entities entities' → Agree E Eq
      (entities.zipIdx.mapM fun ((v, path), i) => Device.ofValue v "server" i path "server")
      (entities'.zipIdx.mapM fun ((v, path), i) => Device.ofValue v "server" i path "server"))
    (hpeers : Agree E Eq (Device.listIn m ["devices", "peers"] "peer" .root "device")
      (Device.listIn m' ["devices", "peers"] "peer" .root "device"))
    (hcabling : Agree E Eq (ofEquipment m (.ofDocument m)) (ofEquipment m' (.ofDocument m'))) :
    (serverDetails m options).Alike E (serverDetails m' options) := by
  refine alike_ofScene (hentities.bind fun es es' he => (hservers es es' he).bind
    fun servers servers' hs => hpeers.bind fun peers peers' hp => hcabling.bind
      fun cabling cabling' hc => ?_)
  rw [hs, hp, hc]
  exact .ok rfl

theorem device_eq_nothing {v : Value} (hget : m.get? "device" = some v) (hv : v.isNull = true) :
    device m options = .nothing := by
  unfold device
  rw [hget]
  cases v with
  | null => rfl
  | bool | number | text | list | mapping => cases hv

theorem device_eq_ofScene {v : Value} (hget : m.get? "device" = some v)
    (hv : v.isNull = false) :
    device m options = .ofScene do
      let device ← Device.ofValue v "device" 0 (Path.root.key "device") "device"
      let records ← Field.list m "connections" .root
      return {
        nodes := do return [← device.drawStack options]
        resolver := .ofDevices [device]
        links := decodeList records .link (Path.root.key "connections") .empty
        portLinks := [] } := by
  unfold device
  rw [hget]
  cases v with
  | null => cases hv
  | bool | number | text | list | mapping => rfl

theorem alike_device {R : Value → Value → Prop}
    (h : Option.Rel R (m.get? "device") (m'.get? "device"))
    (hnull : ∀ v v', R v v' → v.isNull = v'.isNull)
    (hdevice : ∀ v v', R v v' → Agree E Eq
      (Device.ofValue v "device" 0 (Path.root.key "device") "device")
      (Device.ofValue v' "device" 0 (Path.root.key "device") "device"))
    (hrecords : Agree E (fun rs rs' => ∀ path, decodeList rs .link path .empty =
        decodeList rs' .link path .empty)
      (Field.list m "connections" .root) (Field.list m' "connections" .root)) :
    (device m options).Alike E (device m' options) := by
  obtain ⟨hv, hv'⟩ | ⟨v, v', hv, hv', hrel⟩ := rel_cases h
  · unfold device
    rw [hv, hv']
    exact alike_ofScene (.ok rfl)
  · cases hv₀ : v.isNull with
    | true =>
      rw [device_eq_nothing hv hv₀, device_eq_nothing hv' (hnull v v' hrel ▸ hv₀)]
      exact alike_ofScene (.ok rfl)
    | false =>
      rw [device_eq_ofScene hv hv₀, device_eq_ofScene hv' (hnull v v' hrel ▸ hv₀)]
      refine alike_ofScene ((hdevice v v' hrel).bind fun d d' hd =>
        hrecords.bind fun rs rs' hrs => ?_)
      rw [hd, hrs]
      exact .ok rfl

end Plan

/-- Racks or servers in the same fields are found at the same places. -/
theorem Tolerance.agree_entities (T : Tolerance) {R : Value → Value → Prop} (hR : ∀ v, R v v)
    {m m' : Mapping} {singular plural : String}
    (h : ∀ key ∈ [singular, plural],
      Option.Rel (Value.OneOrManyBy R) (m.get? key) (m'.get? key)) :
    Agree T.error (List.Forall₂ fun a b => R a.1 b.1 ∧ T.path a.2 b.2)
      (Field.oneOrMany m singular plural .root) (Field.oneOrMany m' singular plural .root) := by
  refine (Field.agree_oneOrMany hR T.error_refl m m' .root h).mono fun es es' hes => ?_
  exact hes.imp fun a b hab => ⟨hab.1, hab.2 ▸ T.path_refl a.2⟩

namespace Revision.IsRead

open Value (ListsBy MappingsBy OneOrManyBy MembersBy)

variable {χ : Revision} {T : Tolerance} (hχ : χ.IsRead T) {m m' : Mapping}
  {options : RenderOptions}
include hχ

/-- Servers that are found at corresponding places are read alike. -/
theorem agree_servers {entities entities' : List (Value × Path)}
    (h : List.Forall₂ (fun a b => χ.InDevice a.1 b.1 ∧ T.path a.2 b.2) entities entities') :
    Agree T.error Eq
      (entities.zipIdx.mapM fun ((v, path), i) => Device.ofValue v "server" i path "server")
      (entities'.zipIdx.mapM fun ((v, path), i) => Device.ofValue v "server" i path "server") :=
  Agree.mapM_zipIdx_eq h fun _ _ i hab => hχ.agree_device hab.1 "server" i (by decide) hab.2

theorem alike_sites (h : m.Varies (Kind.siteTopology.Revises χ) m') :
    (Plan.sites m).Alike T.error (Plan.sites m') := by
  have hsites := hχ.agree_sites (ByField.rel_single h 0 rfl (by simp))
  have hrecords := ByField.rel_single h 1 rfl (by simp)
  refine Plan.alike_ofScene (hsites.bind fun sites sites' hs =>
    (hχ.agree_records hrecords .site .empty).bind fun rs rs' hrs => ?_)
  rw [hs, hrs]
  exact .ok rfl

theorem alike_siteEquipment (h : m.Varies (Kind.siteEquipment.Revises χ) m') :
    (Plan.siteEquipment m options).Alike T.error (Plan.siteEquipment m' options) := by
  have hracks := ByField.rel h 0 rfl (by simp [cableKeys])
  have hsite := ByField.rel_single h 1 rfl (by simp [cableKeys])
  have hrecords := ByField.rel h 2 rfl (by simp [cableKeys])
  have hcatalog := ByField.eqOff h "cable_types" (by simp [cableKeys])
  exact Plan.alike_siteEquipment
    (hχ.agree_racks (T.agree_entities Value.Revised.refl hracks)) (hχ.agree_header hsite)
    (hχ.agree_cabling hrecords hcatalog)

theorem alike_rackServers (h : m.Varies (Kind.rackServers.Revises χ) m') :
    (Plan.rackServers m options).Alike T.error (Plan.rackServers m' options) := by
  have hracks := ByField.rel h 0 rfl (by simp [cableKeys])
  have hentries := ByField.rel_single h 1 rfl (by simp [cableKeys])
  have hrecords := ByField.rel h 2 rfl (by simp [cableKeys])
  have hcatalog := ByField.eqOff h "cable_types" (by simp [cableKeys])
  exact Plan.alike_rackServers
    (hχ.agree_rackServers (hχ.agree_racks (T.agree_entities Value.Revised.refl hracks)) hentries)
    (hχ.agree_cabling hrecords hcatalog)

theorem alike_serverDetails (h : m.Varies (Kind.serverDetails.Revises χ) m') :
    (Plan.serverDetails m options).Alike T.error (Plan.serverDetails m' options) := by
  have hservers := ByField.rel h 0 rfl (by simp [cableKeys])
  have hpeers := ByField.rel h 1 rfl (by simp [cableKeys])
  have hrecords := ByField.rel h 2 rfl (by simp [cableKeys])
  have hcatalog := ByField.eqOff h "cable_types" (by simp [cableKeys])
  exact Plan.alike_serverDetails (T.agree_entities Value.Revised.refl hservers)
    (fun _ _ hentities => hχ.agree_servers hentities)
    (hχ.agree_devices hpeers "peer" (by decide) (T.path_refl _))
    (hχ.agree_cabling hrecords hcatalog)

theorem alike_device (h : m.Varies (Kind.device.Revises χ) m') :
    (Plan.device m options).Alike T.error (Plan.device m' options) := by
  have hdevice := ByField.rel_single h 0 rfl (by simp)
  have hrecords := ByField.rel_single h 1 rfl (by simp)
  refine Plan.alike_device hdevice (fun _ _ => hχ.isNull_device) (fun v v' hrel => ?_)
    (hχ.agree_records hrecords .link .empty)
  exact hχ.agree_device hrel "device" 0 (by decide) (T.path_refl (Path.root.key "device"))

theorem alike_links (h : m.Varies (Kind.links.Revises χ) m') :
    (Plan.links m).Alike T.error (Plan.links m') := by
  have hrecords := ByField.rel_single h 0 rfl (by simp)
  have hknown := ByField.rel h 1 rfl (by simp)
  refine Plan.alike_ofScene ((hχ.agree_records hrecords .link .empty).bind fun rs rs' hrs =>
    (hχ.agree_devices hknown "device" (by decide) (T.path_refl _)).bind fun ds ds' hd => ?_)
  dsimp only
  rw [hd, hrs]
  exact .ok rfl

theorem agree_topologyScene {topology topology' : Mapping}
    (h : Option.Rel χ.InRecords (m.get? "connections") (m'.get? "connections"))
    (htopology : topology.Varies (ByField [(["devices", "nodes"], χ.InDevices),
      (["connections", "links"], χ.InRecords)]) topology') :
    Agree T.error Eq (topologyScene m topology) (topologyScene m' topology') := by
  have hdevices := ByField.rel htopology 0 rfl (by simp)
  have hrecords := ByField.rel htopology 1 rfl (by simp)
  refine (hχ.agree_devices hdevices "device" (by decide) (T.path_refl _)).bind fun ds ds' hd =>
    (hχ.agree_recordsAlias hrecords .link .empty).bind ?_
  rintro ⟨inner, path⟩ ⟨inner', path'⟩ hinner
  refine (hχ.agree_records h .link .empty).bind fun outer outer' houter => ?_
  dsimp only at hinner ⊢
  rw [hd, hinner, houter]
  exact .ok rfl

theorem alike_topology (h : m.Varies (Kind.topology.Revises χ) m') :
    (Plan.topology m).Alike T.error (Plan.topology m') := by
  have hmarker := Field.agree_mapping (ByField.refl ?_)
    (fun v => T.of .mapping v (T.path_refl (Path.root.key "topology")))
    (ByField.rel_single h 0 rfl (by simp))
  · have hrecords := ByField.rel_single h 1 rfl (by simp)
    obtain ⟨hcomments, hscene⟩ := Plan.agree_topology hmarker rfl
      (fun _ _ htopology => (ByField.eqOff htopology).alike.text "name" (by simp))
      fun _ _ htopology => hχ.agree_topologyScene hrecords htopology
    exact ⟨hcomments, hscene⟩
  · simpa using ⟨fun v => ListsBy.refl v, fun v => ListsBy.refl v⟩

theorem agree_intentScene {intent intent' : Mapping}
    (h : intent.Varies (ByField [(["devices", "endpoints"], χ.InDevices),
      (["flows", "paths"], χ.InRecords)]) intent') :
    Agree T.error Eq (intentScene intent) (intentScene intent') := by
  have hdevices := ByField.rel h 0 rfl (by simp)
  have hrecords := ByField.rel h 1 rfl (by simp)
  have hoff : intent.EqOff ["devices", "endpoints", "flows", "paths"] intent' := ByField.eqOff h
  have hgoals := hoff.alike.listAlias ["goals", "requirements"] (by decide)
  refine (hχ.agree_devices hdevices "device" (by decide) (T.path_refl _)).bind fun ds ds' hd =>
    (hχ.agree_recordsAlias hrecords .flow .empty).bind ?_
  rintro ⟨flows, path⟩ ⟨flows', path'⟩ hflows
  refine Agree.bind_same T.error_refl (hgoals _) fun goals => ?_
  dsimp only at hflows ⊢
  rw [hd, hflows]
  refine .ok ?_
  simp only [intentNote, hoff.alike.firstText ["name", "id"] (by decide),
    hoff.alike.text "description" (by decide)]

theorem alike_intent (h : m.Varies (Kind.intent.Revises χ) m') :
    (Plan.intent m).Alike T.error (Plan.intent m') := by
  have hmarker := Field.agree_mapping (ByField.refl ?_)
    (fun v => T.of .mapping v (T.path_refl (Path.root.key "intent")))
    (ByField.rel_single h 0 rfl (by simp))
  · refine Plan.alike_ofScene (hmarker.bind fun o o' hrel => ?_)
    cases hrel with
    | none => exact .ok rfl
    | some hintent => exact hχ.agree_intentScene hintent
  · simpa using ⟨fun v => ListsBy.refl v, fun v => ListsBy.refl v⟩

/-- **Revised documents are drawn alike** if every single revision is read alike. -/
theorem agree_generate (h : m.Memberwise ((classifyMapping m).Revises χ) m')
    (options : RenderOptions) :
    Agree T.error Eq (generate (.mapping m) options) (generate (.mapping m') options) := by
  refine Plan.Alike.agree_generate h.varies.classify_eq ?_
  generalize classifyMapping m = kind at h
  cases kind with
  | siteTopology => exact hχ.alike_sites h.varies
  | siteEquipment => exact hχ.alike_siteEquipment h.varies
  | rackServers => exact hχ.alike_rackServers h.varies
  | serverDetails => exact hχ.alike_serverDetails h.varies
  | topology => exact hχ.alike_topology h.varies
  | device => exact hχ.alike_device h.varies
  | links => exact hχ.alike_links h.varies
  | intent => exact hχ.alike_intent h.varies
  | unknown =>
    -- the warning lists the keys of the document
    unfold Plan.ofKind Plan.unknown
    dsimp only
    rw [h.keys_eq]
    exact ⟨rfl, .ok rfl⟩

end Revision.IsRead

end InfraDiagram

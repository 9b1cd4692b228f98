import InfraDiagram.Inventory.Site
import InfraDiagram.Proofs.Agreement
import Mathlib.Logic.Relation

/-!
# Revisions

A document is revised when some of its entities, connection records and ends are described in
another way, at however many places, and everything around them stays as it is. If each of these
descriptions is read like the one before, so is every entity around them.

## Main definitions

- `Tolerance` — how far readings of revised documents may differ in their errors
- `Revision` — what may stand for what, by the part of a document that it describes
- `Kind.Revises` — the places of a document of a given kind at which a revision may occur
- `Revision.IsRead` — revised descriptions are read alike

## Main statements

- `Revision.IsRead.agree_device`, `Revision.IsRead.agree_rack`, … — entities that differ by a
  revision are read alike
- `Revision.IsRead.decodeList_eq` — connection records that differ by a revision are decoded alike

## Design notes

A list that is found under another of its names stands at another path, and so does everything in
it. Paths are therefore related by the tolerance and not required to be equal; the text of a path
reaches a diagram only through the lists of connection records, whose paths never change.

A revision changes a value as a whole or somewhere in its fields, not both. Documents that differ in
both ways are joined by two revisions.
-/

namespace InfraDiagram

open Connection
open Relation (ReflGen)

-- ════════════════════════════════════════════════════════════════════════
-- Tolerances
-- ════════════════════════════════════════════════════════════════════════

/-- How far readings may differ in their errors: the paths that may stand for each other, and the
    errors that may. -/
structure Tolerance where
  path : Path → Path → Prop
  error : StructureError → StructureError → Prop
  path_refl : ∀ p, path p p
  error_refl : ∀ e, error e e
  key : ∀ {p p'} name, path p p' → path (p.key name) (p'.key name)
  index : ∀ {p p'} i, path p p' → path (p.index i) (p'.index i)
  of : ∀ {p p'} shape v, path p p' → error (.of p shape v) (.of p' shape v)

namespace Tolerance

/-- The errors are the same. -/
def exact : Tolerance where
  path := Eq
  error := Eq
  path_refl _ := rfl
  error_refl _ := rfl
  key name h := congrArg (·.key name) h
  index i h := congrArg (·.index i) h
  of shape v h := congrArg (StructureError.of · shape v) h

/-- Any error may stand for any other. -/
def any : Tolerance where
  path _ _ := True
  error _ _ := True
  path_refl _ := trivial
  error_refl _ := trivial
  key _ _ := trivial
  index _ _ := trivial
  of _ _ _ := trivial

theorem agree_of_eq {α : Type} (T : Tolerance) {r r' : Except StructureError α} (h : r = r') :
    Agree T.error Eq r r' :=
  h ▸ .refl T.error_refl (fun _ => rfl) r

/-- Lists under the same names are found at corresponding places. -/
theorem agree_listAlias (T : Tolerance) {R : Value → Value → Prop} (hR : ∀ v, R v v)
    {m m' : Mapping} {keys : List String} {p p' : Path} (hp : T.path p p')
    (h : ∀ key ∈ keys,
      Option.Rel (Value.ListsBy (List.Forall₂ R)) (m.get? key) (m'.get? key)) :
    Agree T.error (fun a b => List.Forall₂ R a.1 b.1 ∧ T.path a.2 b.2)
      (Field.listAlias m keys p) (Field.listAlias m' keys p') := by
  have hlist := Field.agree_listAlias (forall₂_refl hR)
    (fun key v => T.of .list v (T.key key hp)) h
  refine hlist.mono ?_
  rintro ⟨items, -⟩ ⟨items', -⟩ ⟨hitems, key, rfl, rfl⟩
  exact ⟨hitems, T.key key hp⟩

end Tolerance

-- ════════════════════════════════════════════════════════════════════════
-- Members of mappings
-- ════════════════════════════════════════════════════════════════════════

/-- The values under the keys of a group are related as the group says; under all other keys they
    are the same. -/
def ByField : List (List String × (Value → Value → Prop)) → String → Value → Value → Prop
  | [], _ => Eq
  | (keys, R) :: groups, key => if key ∈ keys then R else ByField groups key

namespace ByField

variable {groups : List (List String × (Value → Value → Prop))} {m m' : Mapping}

theorem refl (h : ∀ group ∈ groups, ∀ v, group.2 v v) (key : String) (v : Value) :
    ByField groups key v v := by
  induction groups with
  | nil => rfl
  | cons group groups ih =>
    rw [ByField]
    split_ifs
    · exact h group List.mem_cons_self v
    · exact ih fun g hg => h g (List.mem_cons_of_mem _ hg)

theorem eq_of_mem (hkeys : (groups.flatMap Prod.fst).Nodup)
    {group : List String × (Value → Value → Prop)} (hgroup : group ∈ groups) {key : String}
    (hkey : key ∈ group.1) : ByField groups key = group.2 := by
  induction groups with
  | nil => cases hgroup
  | cons first groups ih =>
    rw [List.flatMap_cons, List.nodup_append] at hkeys
    obtain ⟨-, hrest, hdisjoint⟩ := hkeys
    rw [ByField]
    obtain rfl | htail := List.mem_cons.1 hgroup
    · exact if_pos hkey
    · have hother : key ∉ first.1 := fun hfirst =>
        hdisjoint key hfirst key (List.mem_flatMap.2 ⟨group, htail, hkey⟩) rfl
      rw [if_neg hother, ih hrest htail]

theorem eq_of_not_mem {key : String} (hkey : key ∉ groups.flatMap Prod.fst) :
    ByField groups key = Eq := by
  induction groups with
  | nil => rfl
  | cons first groups ih =>
    rw [List.flatMap_cons, List.mem_append, not_or] at hkey
    rw [ByField, if_neg hkey.1, ih hkey.2]

/-- Under each key of the `i`-th group, the values are related as the group says. -/
theorem rel (h : m.Varies (ByField groups) m') (i : Nat) {keys : List String}
    {R : Value → Value → Prop} (hgroup : groups[i]? = some (keys, R))
    (hkeys : (groups.flatMap Prod.fst).Nodup) :
    ∀ key ∈ keys, Option.Rel R (m.get? key) (m'.get? key) :=
  fun _ hkey => h.rel (eq_of_mem hkeys (List.mem_of_getElem? hgroup) hkey)

theorem rel_single (h : m.Varies (ByField groups) m') (i : Nat) {key : String}
    {R : Value → Value → Prop} (hgroup : groups[i]? = some ([key], R))
    (hkeys : (groups.flatMap Prod.fst).Nodup) : Option.Rel R (m.get? key) (m'.get? key) :=
  rel h i hgroup hkeys key (List.mem_singleton_self key)

theorem eqOff (h : m.Varies (ByField groups) m') : m.EqOff (groups.flatMap Prod.fst) m' :=
  fun _ hkey => h.get?_eq (eq_of_not_mem hkey)

end ByField

/-- The mappings have the same keys in the same order, and related values under them. -/
def Mapping.Memberwise (V : String → Value → Value → Prop) : Mapping → Mapping → Prop :=
  List.Forall₂ fun a b => a.1 = b.1 ∧ V a.1 a.2 b.2

namespace Mapping.Memberwise

variable {V : String → Value → Value → Prop} {m m' : Mapping}

theorem refl (hV : ∀ key v, V key v v) (m : Mapping) : Memberwise V m m :=
  List.forall₂_same.2 fun _ _ => ⟨rfl, hV _ _⟩

theorem varies (h : Memberwise V m m') : m.Varies V m' := by
  induction h with
  | nil => exact .nil
  | @cons a b _ _ h _ ih =>
    obtain ⟨key, v⟩ := a
    obtain ⟨key', v'⟩ := b
    obtain ⟨rfl, hv⟩ := h
    exact .cons hv ih

theorem keys_eq (h : Memberwise V m m') : m.keys = m'.keys := by
  induction h with
  | nil => rfl
  | cons h _ ih => exact congrArg₂ List.cons h.1 ih

end Mapping.Memberwise

/-- The values are equal, or they are mappings that are related member by member. -/
inductive Value.MembersBy (V : String → Value → Value → Prop) : Value → Value → Prop where
  | refl (v : Value) : MembersBy V v v
  | members {m m' : Mapping} (h : m.Memberwise V m') : MembersBy V (.mapping m) (.mapping m')

-- ════════════════════════════════════════════════════════════════════════
-- Revisions
-- ════════════════════════════════════════════════════════════════════════

/-- The fields in which a record names its ends. -/
def Connection.endKeys : List String := ["from", "source", "to", "target"]

/-- What may stand for what, by the part of a document that it describes. -/
structure Revision where
  endpoint : Value → Value → Prop
  record : Value → Value → Prop
  port : Value → Value → Prop
  position : Value → Value → Prop
  device : Value → Value → Prop
  rack : Value → Value → Prop
  site : Value → Value → Prop
  /-- What the mapping of servers by rack holds for one of its racks. -/
  entry : Value → Value → Prop

/-- The one value stands for the other as a whole, or they are equal up to their fields. -/
inductive Value.Revised (whole : Value → Value → Prop)
    (fields : List (List String × (Value → Value → Prop))) : Value → Value → Prop where
  | whole {v v' : Value} (h : whole v v') : Revised whole fields v v'
  | fields {v v' : Value} (h : MappingsBy (ByField fields) v v') : Revised whole fields v v'

theorem Value.Revised.refl {whole : Value → Value → Prop}
    {fields : List (List String × (Value → Value → Prop))} (v : Value) :
    Revised whole fields v v :=
  .fields (.refl v)

namespace Revision

open Value (ListsBy MappingsBy OneOrManyBy MembersBy Revised)

variable (χ : Revision)

/-- A connection record, or its ends, are described in another way. -/
def InRecord : Value → Value → Prop :=
  Revised χ.record [(Connection.endKeys, ReflGen χ.endpoint)]

/-- A port, or what it is connected to, is described in another way. -/
def InPort : Value → Value → Prop :=
  Revised χ.port [(Port.peerKeys, ReflGen χ.endpoint)]

/-- A device, its ports or its position are described in another way. -/
def InDevice : Value → Value → Prop :=
  Revised χ.device
    [(["ports", "interfaces"], ListsBy (List.Forall₂ χ.InPort)),
     (["position"], ReflGen χ.position)]

def InRecords : Value → Value → Prop :=
  ListsBy (List.Forall₂ χ.InRecord)

def InDevices : Value → Value → Prop :=
  ListsBy (List.Forall₂ χ.InDevice)

/-- A rack or its devices are described in another way. -/
def InRack : Value → Value → Prop :=
  Revised χ.rack [(["devices", "equipment"], χ.InDevices)]

/-- The servers of a rack are given in another way. -/
inductive InEntry : Value → Value → Prop where
  | servers {v v' : Value} (h : χ.InDevices v v') : InEntry v v'
  | entry {v v' : Value} (h : Revised χ.entry [(["servers"], χ.InDevices)] v v') : InEntry v v'

end Revision

open Value (ListsBy MappingsBy OneOrManyBy MembersBy) in
/-- The places at which a revision may occur in a document of a given kind: those from which
    entities and connection records are read. -/
def Kind.Revises (χ : Revision) : Kind → String → Value → Value → Prop
  | .siteTopology => ByField
    [(["sites"], ListsBy (List.Forall₂ (ReflGen χ.site))), (["connections"], χ.InRecords)]
  | .siteEquipment => ByField
    [(["rack", "racks"], OneOrManyBy χ.InRack), (["site"], ReflGen χ.site),
     (cableKeys, χ.InRecords)]
  | .rackServers => ByField
    [(["rack", "racks"], OneOrManyBy χ.InRack),
     (["rack_servers"], MembersBy fun _ => χ.InEntry),
     (cableKeys, χ.InRecords)]
  | .serverDetails => ByField
    [(["server", "servers"], OneOrManyBy χ.InDevice), (["devices", "peers"], χ.InDevices),
     (cableKeys, χ.InRecords)]
  | .topology => ByField
    [(["topology"], MappingsBy (ByField
        [(["devices", "nodes"], χ.InDevices), (["connections", "links"], χ.InRecords)])),
     (["connections"], χ.InRecords)]
  | .device => ByField [(["device"], χ.InDevice), (["connections"], χ.InRecords)]
  | .links => ByField [(["links"], χ.InRecords), (["devices"], χ.InDevices)]
  | .intent => ByField
    [(["intent"], MappingsBy (ByField
        [(["devices", "endpoints"], χ.InDevices), (["flows", "paths"], χ.InRecords)]))]
  | .unknown => ByField []

/-- What a position says about the unit. -/
def RackUnit.ofPositionValue? (position : Value) : Option Nat :=
  position.mapping?.bind fun p => (p.get? "unit").bind ofValue?

/-- Each description is read like the one that it stands for, at any paths that the tolerance
    allows. Entities are entities in both descriptions. -/
structure Revision.IsRead (χ : Revision) (T : Tolerance) : Prop where
  endpoint : ∀ v v', χ.endpoint v v' → Endpoint.ofValue? v = Endpoint.ofValue? v'
  record : ∀ v v', χ.record v v' → ∀ category catalog context,
    ofRecord v category catalog context = ofRecord v' category catalog context
  port : ∀ v v', χ.port v v' → ∀ index p p', T.path p p' →
    Agree T.error Eq (Port.ofValue v index p) (Port.ofValue v' index p')
  position : ∀ v v', χ.position v v' →
    RackUnit.ofPositionValue? v = RackUnit.ofPositionValue? v'
  device : ∀ v v', χ.device v v' → (v.IsEntity ∧ v'.IsEntity) ∧
    ∀ parent index p p' defaultType, defaultType ≠ Device.groupType → T.path p p' →
      Agree T.error Eq (Device.ofValue v parent index p defaultType)
        (Device.ofValue v' parent index p' defaultType)
  rack : ∀ v v', χ.rack v v' → (v.IsEntity ∧ v'.IsEntity) ∧ ∀ index p p', T.path p p' →
    Agree T.error Eq (Rack.ofValue v index p) (Rack.ofValue v' index p')
  site : ∀ v v', χ.site v v' → (v.IsEntity ∧ v'.IsEntity) ∧ ∀ defaultId p p', T.path p p' →
    Agree T.error Eq (Site.ofValue v defaultId p) (Site.ofValue v' defaultId p')
  entry : ∀ v v', χ.entry v v' → ∀ p p', T.path p p' →
    Agree T.error Eq (Rack.serverEntry v p) (Rack.serverEntry v' p')

/-- The revision that leaves every description as it is. -/
def Revision.nothing : Revision :=
  let never : Value → Value → Prop := fun _ _ => False
  ⟨never, never, never, never, never, never, never, never⟩

/-- What stays as it is is read alike at all paths that the tolerance allows. -/
theorem Revision.isRead_nothing (T : Tolerance) : nothing.IsRead T where
  endpoint _ _ h := h.elim
  record _ _ h := h.elim
  port _ _ h := h.elim
  position _ _ h := h.elim
  device _ _ h := h.elim
  rack _ _ h := h.elim
  site _ _ h := h.elim
  entry _ _ h := h.elim

-- ════════════════════════════════════════════════════════════════════════
-- Connection records
-- ════════════════════════════════════════════════════════════════════════

namespace Connection

variable {m m' : Mapping}

theorem describe_congr (h : m.AlikeOff endKeys m') (catalog : CableCatalog) :
    catalog.describe m = catalog.describe m' := by
  unfold CableCatalog.describe
  rw [h.firstText ["cable_type", "cable"] (by decide), h.text "name" (by decide)]

theorem dataLabel_congr (h : m.AlikeOff endKeys m') (catalog : CableCatalog) :
    dataLabel m catalog = dataLabel m' catalog := by
  unfold dataLabel
  dsimp only
  rw [describe_congr h, h.text "speed" (by decide), h.text "count" (by decide),
    h.text "purpose" (by decide), h.text "range" (by decide)]

theorem isInactive_given? (m : Mapping) : isInactive m =
    ((match m.given? "active" with
      | some (.bool false) => true
      | _ => false) ||
    (Field.text m "status").any fun status =>
      Text.eqIgnoreAsciiCase status "inactive" || Text.eqIgnoreAsciiCase status "disabled") := by
  unfold isInactive Mapping.given?
  cases m.get? "active" with
  | none => rfl
  | some v => cases v <;> rfl

theorem isInactive_congr (h : m.AlikeOff endKeys m') : isInactive m = isInactive m' := by
  rw [isInactive_given?, isInactive_given?, h "active" (by decide), h.text "status" (by decide)]

theorem presentFields_congr (h : m.AlikeOff endKeys m') {fields : List String}
    (hfields : ∀ field ∈ fields, field ∉ endKeys) :
    presentFields m fields = presentFields m' fields :=
  List.filterMap_congr fun field hfield => h.text field (hfields field hfield)

/-- The label and the style of a connection do not depend on its ends. -/
theorem compose_congr (h : m.AlikeOff endKeys m') (category : Category)
    (catalog : CableCatalog) : compose m category catalog = compose m' category catalog := by
  cases category with
  | link | site | flow =>
    dsimp only [compose]
    rw [presentFields_congr h]
    decide
  | power =>
    dsimp only [compose]
    rw [describe_congr h, h.text "count" (by decide)]
  | data =>
    dsimp only [compose]
    rw [dataLabel_congr h, isInactive_congr h]
  | optional =>
    dsimp only [compose]
    rw [dataLabel_congr h, h.text "condition" (by decide)]

/-- Records that name the same ends and are alike apart from these are decoded alike. -/
theorem ofRecord_congr (h : m.AlikeOff endKeys m')
    (hsource : end? m "from" "source" = end? m' "from" "source")
    (htarget : end? m "to" "target" = end? m' "to" "target") (category : Category)
    (catalog : CableCatalog) (context : String) :
    ofRecord (.mapping m) category catalog context =
      ofRecord (.mapping m') category catalog context := by
  dsimp only [ofRecord]
  rw [hsource, htarget, compose_congr h]

theorem decodeList_congr {R : Value → Value → Prop} {records records' : List Value}
    (h : List.Forall₂ R records records') {category : Category} {catalog catalog' : CableCatalog}
    (hR : ∀ v v' context, R v v' →
      ofRecord v category catalog context = ofRecord v' category catalog' context) (path : Path) :
    decodeList records category path catalog = decodeList records' category path catalog' := by
  unfold decodeList
  refine congrArg (List.foldr (· ++ ·) Decoded.empty) ?_
  rw [← List.forall₂_eq_eq_eq, List.forall₂_map_left_iff, List.forall₂_map_right_iff]
  exact forall₂_zipIdx h (fun v v' i hv => congrArg Decoded.ofResult (hR v v' _ hv)) 0

end Connection

-- ════════════════════════════════════════════════════════════════════════
-- Entities
-- ════════════════════════════════════════════════════════════════════════

theorem RackUnit.ofPosition?_eq (m : Mapping) :
    ofPosition? m = (m.get? "position").bind ofPositionValue? :=
  Option.bind_assoc ..

namespace Revision.IsRead

open Value (ListsBy MappingsBy OneOrManyBy MembersBy)

variable {χ : Revision} {T : Tolerance} (hχ : χ.IsRead T) {m m' : Mapping} {p p' : Path}
include hχ

theorem ofEnd_eq {o o' : Option Value} (h : Option.Rel (ReflGen χ.endpoint) o o') :
    o.bind Endpoint.ofValue? = o'.bind Endpoint.ofValue? := by
  cases h with
  | none => rfl
  | some h =>
    cases h with
    | refl => rfl
    | single h => exact hχ.endpoint _ _ h

theorem ofRecord_eq {v v' : Value} (h : χ.InRecord v v') (category : Category)
    (catalog : CableCatalog) (context : String) :
    ofRecord v category catalog context = ofRecord v' category catalog context := by
  cases h with
  | whole h => exact hχ.record _ _ h _ _ _
  | fields h =>
    cases h with
    | refl => rfl
    | @mappings m m' h =>
      have hends := ByField.rel h 0 rfl (by simp [endKeys])
      have hoff : m.EqOff endKeys m' := ByField.eqOff h
      have hend : ∀ key ∈ endKeys, ∀ other ∈ endKeys, end? m key other = end? m' key other :=
        fun key hkey other hother => hχ.ofEnd_eq (rel_or (hends key hkey) (hends other hother))
      exact ofRecord_congr hoff.alike (hend _ (by decide) _ (by decide))
        (hend _ (by decide) _ (by decide)) _ _ _

theorem decodeList_eq {records records' : List Value}
    (h : List.Forall₂ χ.InRecord records records') (category : Category) (path : Path)
    (catalog : CableCatalog) :
    decodeList records category path catalog = decodeList records' category path catalog :=
  decodeList_congr h (fun _ _ _ hv => hχ.ofRecord_eq hv _ _ _) path

theorem agree_port {v v' : Value} (h : χ.InPort v v') (index : Nat) (hp : T.path p p') :
    Agree T.error Eq (Port.ofValue v index p) (Port.ofValue v' index p') := by
  cases h with
  | whole h => exact hχ.port _ _ h _ _ _ hp
  | fields h =>
    cases h with
    | refl =>
      cases v with
      | text | mapping => exact .ok rfl
      | null | bool | number | list => exact .error (T.of _ _ hp)
    | @mappings m m' h =>
      have hpeer := hχ.ofEnd_eq
        (rel_findSome? (ByField.rel h 0 rfl (by simp [Port.peerKeys])))
      have hoff : m.EqOff Port.peerKeys m' := ByField.eqOff h
      refine .ok ?_
      rw [hoff.alike.firstText ["name", "id", "port"] (by decide),
        hoff.alike.text "label" (by decide), hoff.alike.text "speed" (by decide)]
      exact congrArg (Port.mk _ _ _) hpeer

/-- Ports that are listed at corresponding places are read alike. -/
theorem agree_ports
    (h : Agree T.error (fun a b => List.Forall₂ χ.InPort a.1 b.1 ∧ T.path a.2 b.2)
      (Field.listAlias m ["ports", "interfaces"] p)
      (Field.listAlias m' ["ports", "interfaces"] p')) :
    Agree T.error Eq (Port.listIn m p) (Port.listIn m' p') := by
  apply h.bind
  rintro ⟨items, path⟩ ⟨items', path'⟩ ⟨hports, hpath⟩
  exact Agree.mapM_zipIdx_eq hports fun v v' i hv => hχ.agree_port hv i (T.index i hpath)

theorem agree_deviceMapping
    (h : m.Varies (ByField [(["ports", "interfaces"], ListsBy (List.Forall₂ χ.InPort)),
      (["position"], ReflGen χ.position)]) m') (parent : String) (index : Nat)
    (defaultType : String) (hp : T.path p p') :
    Agree T.error Eq (Device.ofMapping m parent index p defaultType)
      (Device.ofMapping m' parent index p' defaultType) := by
  have hports := hχ.agree_ports
    (T.agree_listAlias Value.Revised.refl hp (ByField.rel h 0 rfl (by simp)))
  have hposition : (m.get? "position").bind RackUnit.ofPositionValue? =
      (m'.get? "position").bind RackUnit.ofPositionValue? := by
    obtain ⟨hv, hv'⟩ | ⟨v, v', hv, hv', hrel⟩ := rel_cases
      (ByField.rel_single h 1 rfl (by simp))
    · rw [hv, hv']
    · rw [hv, hv']
      cases hrel with
      | refl => rfl
      | single h => exact hχ.position _ _ h
  have hoff : m.EqOff ["ports", "interfaces", "position"] m' := ByField.eqOff h
  have hunit : RackUnit.start m = RackUnit.start m' := by
    unfold RackUnit.start RackUnit.ofRange?
    rw [RackUnit.ofPosition?_eq, RackUnit.ofPosition?_eq, hposition,
      hoff "positionRange" (by decide), hoff "position_range" (by decide)]
  exact Device.agree_ofMapping_eq parent index defaultType (hoff.alike.mono (by decide)) hunit
    hports

theorem agree_device {v v' : Value} (h : χ.InDevice v v') (parent : String) (index : Nat)
    {defaultType : String} (hdefault : defaultType ≠ Device.groupType) (hp : T.path p p') :
    Agree T.error Eq (Device.ofValue v parent index p defaultType)
      (Device.ofValue v' parent index p' defaultType) := by
  cases h with
  | whole h => exact (hχ.device _ _ h).2 _ _ _ _ _ hdefault hp
  | fields h =>
    cases h with
    | mappings h => exact hχ.agree_deviceMapping h _ _ _ hp
    | refl =>
      cases v with
      | text => exact .ok rfl
      | mapping m =>
        refine hχ.agree_deviceMapping (.refl (ByField.refl ?_) m) _ _ _ hp
        simpa using ⟨fun v => ListsBy.refl v, fun v => ReflGen.refl⟩
      | null | bool | number | list => exact .error (T.of _ _ hp)

/-- Devices that are listed one after another, from whatever place on. -/
theorem agree_items {items items' : List Value} (h : List.Forall₂ χ.InDevice items items')
    (parent : String) (start : Nat) {defaultType : String}
    (hdefault : defaultType ≠ Device.groupType) (hp : T.path p p') :
    Agree T.error Eq
      (items.zipIdx.mapM fun (v, i) =>
        Device.ofValue v parent (start + i) (p.index i) defaultType)
      (items'.zipIdx.mapM fun (v, i) =>
        Device.ofValue v parent (start + i) (p'.index i) defaultType) :=
  Agree.mapM_zipIdx_eq h fun _ _ i hv => hχ.agree_device hv _ _ hdefault (T.index i hp)

/-- Devices that are listed at corresponding places are read alike. -/
theorem agree_listed {keys : List String}
    (h : Agree T.error (fun a b => List.Forall₂ χ.InDevice a.1 b.1 ∧ T.path a.2 b.2)
      (Field.listAlias m keys p) (Field.listAlias m' keys p')) (parent : String)
    {defaultType : String} (hdefault : defaultType ≠ Device.groupType) :
    Agree T.error Eq (Device.listIn m keys parent p defaultType)
      (Device.listIn m' keys parent p' defaultType) := by
  apply h.bind
  rintro ⟨items, path⟩ ⟨items', path'⟩ ⟨hdevices, hpath⟩
  -- a list of its own is numbered from its beginning
  have hread := hχ.agree_items hdevices parent 0 hdefault hpath
  simpa only [Nat.zero_add] using hread

theorem agree_devices {keys : List String}
    (h : ∀ key ∈ keys, Option.Rel χ.InDevices (m.get? key) (m'.get? key)) (parent : String)
    {defaultType : String} (hdefault : defaultType ≠ Device.groupType) (hp : T.path p p') :
    Agree T.error Eq (Device.listIn m keys parent p defaultType)
      (Device.listIn m' keys parent p' defaultType) :=
  hχ.agree_listed (T.agree_listAlias Value.Revised.refl hp h) parent hdefault

theorem agree_rackMapping (h : m.Varies (ByField [(["devices", "equipment"], χ.InDevices)]) m')
    (index : Nat) (hp : T.path p p') :
    Agree T.error Eq (Rack.ofValue (.mapping m) index p)
      (Rack.ofValue (.mapping m') index p') := by
  have hoff : m.EqOff ["devices", "equipment"] m' := ByField.eqOff h
  unfold Rack.ofValue
  dsimp only
  rw [hoff.alike.firstText ["id", "name"] (by decide),
    hoff.alike.firstText ["label", "name"] (by decide)]
  refine (hχ.agree_devices (ByField.rel h 0 rfl (by simp)) _ (by decide) hp).bind
    fun devices devices' hdevices => .ok ?_
  rw [hdevices]

theorem agree_rack {v v' : Value} (h : χ.InRack v v') (index : Nat) (hp : T.path p p') :
    Agree T.error Eq (Rack.ofValue v index p) (Rack.ofValue v' index p') := by
  cases h with
  | whole h => exact (hχ.rack _ _ h).2 _ _ _ hp
  | fields h =>
    cases h with
    | mappings h => exact hχ.agree_rackMapping h _ hp
    | refl =>
      cases v with
      | text => exact .ok rfl
      | mapping m =>
        have hsame : ∀ v, χ.InDevices v v := ListsBy.refl
        exact hχ.agree_rackMapping (.refl (ByField.refl (by simpa using hsame)) m) _ hp
      | null | bool | number | list => exact .error (T.of _ _ hp)

theorem isNull_device {v v' : Value} (h : χ.InDevice v v') : v.isNull = v'.isNull := by
  cases h with
  | whole h =>
    obtain ⟨⟨hv, hv'⟩, -⟩ := hχ.device _ _ h
    rw [hv.isNull, hv'.isNull]
  | fields h => exact h.isNull_eq

theorem isNull_site {v v' : Value} (h : ReflGen χ.site v v') : v.isNull = v'.isNull := by
  cases h with
  | refl => rfl
  | single h =>
    obtain ⟨⟨hv, hv'⟩, -⟩ := hχ.site _ _ h
    rw [hv.isNull, hv'.isNull]

theorem agree_site {v v' : Value} (h : ReflGen χ.site v v') (defaultId : String)
    (hp : T.path p p') :
    Agree T.error Eq (Site.ofValue v defaultId p) (Site.ofValue v' defaultId p') := by
  cases h with
  | single h => exact (hχ.site _ _ h).2 _ _ _ hp
  | refl =>
    cases v with
    | text | mapping => exact .ok rfl
    | null | bool | number | list => exact .error (T.of _ _ hp)

end Revision.IsRead

end InfraDiagram

import InfraDiagram.Proofs.Documents
import InfraDiagram.Proofs.RevisedDocuments

/-!
# Shapes of entities

A document may give an entity in several shapes: a bare name in place of a mapping that holds
nothing else, one rack in place of a list of it, a list under another of its names. Whatever the
shape, the same diagram is drawn; only the path of an error may tell the difference.

## Main definitions

- `Value.Bare`, `Value.Renamed`, `Rack.EntryReshaped`, `Endpoint.Reshaped` — single changes of shape
- `reshaping` — the revision that consists of them
- `Reshaped` — one change of shape in a document

## Main statements

- `isRead_reshaping` — entities are read alike in all their shapes
- `drawn_alike_of_reshaped` — documents of different shapes are drawn alike
-/

namespace InfraDiagram

open Relation (EqvGen ReflGen)

-- ════════════════════════════════════════════════════════════════════════
-- Other names
-- ════════════════════════════════════════════════════════════════════════

namespace Mapping

/-- What is under one name in the first mapping is under the other name in the second, perhaps in
    another form. Neither mapping has both names. -/
structure Moved (old new : String) (v v' : Value) (m m' : Mapping) : Prop where
  elsewhere : m.EqOff [new, old] m'
  before_old : m.get? old = some v
  before_new : m.get? new = none
  after_old : m'.get? old = none
  after_new : m'.get? new = some v'

variable {old new : String} {v v' : Value} {m m' : Mapping}

theorem get?_single (field : String) (v : Value) (key : String) :
    get? [(field, v)] key = if key = field then some v else none :=
  get?_cons (field, v) [] key

/-- A member is moved to another name in its place. -/
theorem moved (before after : Mapping) (hne : old ≠ new)
    (hkeys : ∀ key ∈ [old, new], key ∉ keys before ∧ key ∉ keys after) :
    Moved old new v v' (before ++ (old, v) :: after) (before ++ (new, v') :: after) := by
  have hnone : ∀ key ∈ [old, new], get? before key = none ∧ get? after key = none :=
    fun key hkey => ⟨get?_eq_none (hkeys key hkey).1, get?_eq_none (hkeys key hkey).2⟩
  obtain ⟨hold, hold'⟩ := hnone old (by simp)
  obtain ⟨hnew, hnew'⟩ := hnone new (by simp)
  constructor
  · intro key hkey
    have hother : key ≠ new ∧ key ≠ old := by simpa using hkey
    rw [get?_append, get?_append, get?_cons, get?_cons, if_neg hother.2, if_neg hother.1]
  · rw [get?_append, get?_cons, hold, if_pos rfl, Option.none_or]
  · rw [get?_append, get?_cons, hnew, if_neg hne.symm, hnew', Option.none_or]
  · rw [get?_append, get?_cons, hold, if_neg hne, hold', Option.none_or]
  · rw [get?_append, get?_cons, hnew, if_pos rfl, Option.none_or]

/-- A marker of a kind may be exchanged for the next one if it is of the same kind. -/
theorem Moved.classify_eq (h : Moved old new v v' m m') (kind : Kind)
    (before after : List (String × Kind))
    (hmarkers : markers = before ++ (old, kind) :: (new, kind) :: after)
    (hbefore : ∀ marker ∈ before, marker.1 ∉ [new, old]) :
    classifyMapping m = classifyMapping m' := by
  have hsame : before.find? (fun marker => m.contains marker.1) =
      before.find? fun marker => m'.contains marker.1 := by
    rw [← List.head?_filter, ← List.head?_filter, List.filter_congr fun marker hmarker => ?_]
    rw [contains, contains, h.elsewhere _ (hbefore marker hmarker)]
  unfold classifyMapping
  rw [hmarkers, List.find?_append, List.find?_append, hsame]
  cases before.find? fun marker => m'.contains marker.1 with
  | some marker => rfl
  | none => simp [contains, h.before_old, h.after_old, h.after_new]

end Mapping

namespace Field

variable {m m' : Mapping} {v : Value}

/-- A list is found whichever of its two names it has. -/
theorem agree_listAlias_moved {R : Value → Value → Prop} (hR : ∀ v, R v v) {old new : String}
    (h : Mapping.Moved old new v v m m') (path path' : Path) :
    Agree Tolerance.any.error
      (fun a b => List.Forall₂ R a.1 b.1 ∧ Tolerance.any.path a.2 b.2)
      (listAlias m [new, old] path) (listAlias m' [new, old] path') := by
  have hnew : isPresent m new = false := by
    rw [isPresent, h.before_new, Option.any_none]
  have hold : isPresent m old = !v.isNull := by
    rw [isPresent, h.before_old, Option.any_some]
  have hnew' : isPresent m' new = !v.isNull := by
    rw [isPresent, h.after_new, Option.any_some]
  have hold' : isPresent m' old = false := by
    rw [isPresent, h.after_old, Option.any_none]
  unfold listAlias
  rw [List.find?_cons, List.find?_cons, List.find?_cons, List.find?_cons, hnew, hold, hnew', hold']
  cases hnull : v.isNull with
  | true => exact .ok ⟨.nil, trivial⟩
  | false =>
    change Agree _ _ ((list m old path).map _) ((list m' new path').map _)
    rw [list, list, h.before_old, h.after_new]
    cases v with
    | null => exact .ok ⟨.nil, trivial⟩
    | list items => exact .ok ⟨forall₂_refl hR items, trivial⟩
    | bool | number | text | mapping => exact .error trivial

/-- One entity under its singular name is read like a list of it under the plural name. -/
theorem agree_oneOrMany_moved {R : Value → Value → Prop} (hR : ∀ v, R v v)
    {singular plural : String} (hv : v.IsEntity)
    (h : Mapping.Moved singular plural v (.list [v]) m m') :
    Agree Tolerance.any.error
      (List.Forall₂ fun a b => R a.1 b.1 ∧ Tolerance.any.path a.2 b.2)
      (oneOrMany m singular plural .root) (oneOrMany m' singular plural .root) := by
  have hpresent : isPresent m singular = true := by
    rw [isPresent, h.before_old, Option.any_some, hv.isNull, Bool.not_false]
  have hpresent' : isPresent m' singular = false := by
    rw [isPresent, h.after_old, Option.any_none]
  have hone : oneOrMany m singular plural .root = .ok [(v, Path.root.key singular)] :=
    oneOrMany_entity hv (if_pos hpresent) h.before_old _
  have hmany : oneOrMany m' singular plural .root =
      .ok [(v, (Path.root.key plural).index 0)] := by
    unfold oneOrMany
    rw [hpresent']
    dsimp only [Bool.false_eq_true, if_false]
    rw [if_neg Bool.false_ne_true, h.after_new]
    rfl
  rw [hone, hmany]
  exact .ok (.cons ⟨hR v, trivial⟩ .nil)

/-- A bare name is read from its only field as it stands. -/
theorem text_single {name : String} (hblank : Text.isBlank name = false)
    (htrim : Text.trim name = name) (field key : String) :
    text [(field, .text name)] key = if key = field then some name else none := by
  rw [text, Mapping.get?_single]
  split_ifs
  · simp [scalarText, hblank, htrim]
  · rfl

end Field

-- ════════════════════════════════════════════════════════════════════════
-- Single changes of shape
-- ════════════════════════════════════════════════════════════════════════

/-- A name that stands by itself, or as the only field of a mapping. The name is not blank and has
    no white space around it. -/
inductive Value.Bare (field : String) : Value → Value → Prop where
  | intro {name : String} (hblank : Text.isBlank name = false) (htrim : Text.trim name = name) :
    Bare field (.text name) (.mapping [(field, .text name)])

/-- A field of a mapping that has another of its names, which the mapping does not have already. -/
inductive Value.Renamed (old new : String) : Value → Value → Prop where
  | intro {m m' : Mapping} {v : Value} (h : Mapping.Moved old new v v m m') :
    Renamed old new (.mapping m) (.mapping m')

/-- A token by itself, or in a mapping. -/
inductive Endpoint.Reshaped : Value → Value → Prop where
  | bare (token : String) : Reshaped (.text token) (.mapping [("device", .text token)])

inductive Device.Reshaped : Value → Value → Prop where
  | bare {v v' : Value} (h : Value.Bare "id" v v') : Reshaped v v'
  | ports {v v' : Value} (h : Value.Renamed "interfaces" "ports" v v') : Reshaped v v'

inductive Rack.Reshaped : Value → Value → Prop where
  | bare {v v' : Value} (h : Value.Bare "id" v v') : Reshaped v v'
  | devices {v v' : Value} (h : Value.Renamed "equipment" "devices" v v') : Reshaped v v'

/-- The servers of a rack by themselves, or in a mapping. -/
inductive Rack.EntryReshaped : Value → Value → Prop where
  | bare (servers : List Value) :
    EntryReshaped (.list servers) (.mapping [("servers", .list servers)])

/-- Everything has one of its shapes in place of another. -/
def reshaping : Revision where
  endpoint := Endpoint.Reshaped
  record _ _ := False
  port := Value.Bare "name"
  position _ _ := False
  device := Device.Reshaped
  rack := Rack.Reshaped
  site := Value.Bare "id"
  entry := Rack.EntryReshaped

theorem Value.Bare.isEntity {field : String} {v v' : Value} (h : Bare field v v') :
    v.IsEntity ∧ v'.IsEntity := by
  cases h
  exact ⟨trivial, trivial⟩

theorem Value.Renamed.isEntity {old new : String} {v v' : Value} (h : Renamed old new v v') :
    v.IsEntity ∧ v'.IsEntity := by
  cases h
  exact ⟨trivial, trivial⟩

theorem Port.ofValue_bare {v v' : Value} (h : Value.Bare "name" v v') (index : Nat)
    (p p' : Path) : ofValue v index p = ofValue v' index p' := by
  obtain ⟨hblank, htrim⟩ := h
  simp [ofValue, Field.firstText, Field.text_single hblank htrim, Mapping.get?_single]

/-- A bare name says no more about a device than a mapping with nothing but that name. -/
theorem Device.ofMapping_bare {name defaultType : String} (hblank : Text.isBlank name = false)
    (htrim : Text.trim name = name) (hdefault : defaultType ≠ groupType) (parent : String)
    (index : Nat) (path : Path) :
    ofMapping [("id", .text name)] parent index path defaultType =
      .ok (ofId name index defaultType) := by
  have hgroup : (defaultType == groupType) = false := beq_eq_false_iff_ne.2 hdefault
  simp [ofMapping, ofId, Field.firstText, Field.text_single hblank htrim,
    Mapping.get?_single, hgroup, Port.listIn, Field.listAlias, Field.isPresent, RackUnit.start,
    RackUnit.ofRange?, RackUnit.ofPosition?, detailLines, detailFields]
  rfl

theorem Device.ofMapping_renamed {m m' : Mapping} {v : Value}
    (h : Mapping.Moved "interfaces" "ports" v v m m') (parent : String) (index : Nat)
    (p p' : Path) (defaultType : String) :
    Agree Tolerance.any.error Eq (ofMapping m parent index p defaultType)
      (ofMapping m' parent index p' defaultType) := by
  have hports := (Revision.isRead_nothing .any).agree_ports
    (Field.agree_listAlias_moved Value.Revised.refl h p p')
  have hother : ∀ key ∈ RackUnit.keys, key ∉ ["ports", "interfaces"] := by decide
  have hunit := RackUnit.start_congr fun key hkey => h.elsewhere key (hother key hkey)
  exact agree_ofMapping_eq parent index defaultType
    (h.elsewhere.alike.mono (List.subset_append_left _ _)) hunit hports

theorem Device.agree_reshaped {v v' : Value} (h : Reshaped v v') (parent : String) (index : Nat)
    (p p' : Path) {defaultType : String} (hdefault : defaultType ≠ groupType) :
    Agree Tolerance.any.error Eq (ofValue v parent index p defaultType)
      (ofValue v' parent index p' defaultType) := by
  cases h with
  | bare h =>
    obtain ⟨hblank, htrim⟩ := h
    change Agree _ Eq _ (ofMapping _ parent index p' defaultType)
    rw [ofMapping_bare hblank htrim hdefault]
    exact .ok rfl
  | ports h =>
    obtain ⟨h⟩ := h
    exact ofMapping_renamed h parent index p p' defaultType

theorem Rack.agree_reshaped {v v' : Value} (h : Reshaped v v') (index : Nat) (p p' : Path) :
    Agree Tolerance.any.error Eq (ofValue v index p) (ofValue v' index p') := by
  cases h with
  | bare h =>
    obtain ⟨hblank, htrim⟩ := h
    refine .ok ?_
    simp [Field.firstText, Field.text_single hblank htrim]
  | devices h =>
    obtain ⟨h⟩ := h
    have hoff := h.elsewhere.alike
    unfold ofValue
    dsimp only
    rw [hoff.firstText ["id", "name"] (by decide), hoff.firstText ["label", "name"] (by decide)]
    have hdevices := (Revision.isRead_nothing .any).agree_listed
      (Field.agree_listAlias_moved Value.Revised.refl h p p')
    exact (hdevices _ (by decide)).bind fun devices devices' hequal => .ok (by rw [hequal])

theorem Site.ofValue_bare {v v' : Value} (h : Value.Bare "id" v v') (defaultId : String)
    (p p' : Path) : ofValue v defaultId p = ofValue v' defaultId p' := by
  obtain ⟨hblank, htrim⟩ := h
  simp [ofValue, ofId, ofMapping, Field.firstText, Field.text_single hblank htrim]

/-- Everything is read alike in all its shapes. -/
theorem isRead_reshaping : reshaping.IsRead .any where
  endpoint v v' h := by
    cases h
    rfl
  record _ _ h := h.elim
  port v v' h index p p' _ := Tolerance.any.agree_of_eq (Port.ofValue_bare h index p p')
  position _ _ h := h.elim
  device v v' h := by
    refine ⟨?_, fun parent index p p' _ hdefault _ =>
      Device.agree_reshaped h parent index p p' hdefault⟩
    cases h with
    | bare h => exact h.isEntity
    | ports h => exact h.isEntity
  rack v v' h := by
    refine ⟨?_, fun index p p' _ => Rack.agree_reshaped h index p p'⟩
    cases h with
    | bare h => exact h.isEntity
    | devices h => exact h.isEntity
  site v v' h := ⟨h.isEntity, fun defaultId p p' _ =>
    Tolerance.any.agree_of_eq (Site.ofValue_bare h defaultId p p')⟩
  entry v v' h p p' _ := by
    cases h
    exact .ok rfl

-- ════════════════════════════════════════════════════════════════════════
-- Documents
-- ════════════════════════════════════════════════════════════════════════

/-- One change of shape in a document, at a place from which its kind is read: entities, ends and
    lists have other shapes, or a single rack or server is listed under the plural name. -/
inductive Reshaped : Value → Value → Prop where
  | shapes {m m' : Mapping} (h : m.Memberwise ((classifyMapping m).Revises reshaping) m') :
    Reshaped (.mapping m) (.mapping m')
  | rack {m m' : Mapping} {v : Value}
      (hkind : classifyMapping m ∈ [Kind.siteEquipment, .rackServers]) (hv : v.IsEntity)
      (h : Mapping.Moved "rack" "racks" v (.list [v]) m m') :
    Reshaped (.mapping m) (.mapping m')
  | server {m m' : Mapping} {v : Value} (hkind : classifyMapping m = .serverDetails)
      (hv : v.IsEntity) (h : Mapping.Moved "server" "servers" v (.list [v]) m m') :
    Reshaped (.mapping m) (.mapping m')

/-- The cables of documents that differ elsewhere are the same. -/
theorem Mapping.EqOff.agree_cabling {keys : List String} {m m' : Mapping} (h : m.EqOff keys m')
    (hcables : ∀ key ∈ "cable_types" :: cableKeys, key ∉ keys) :
    Agree Tolerance.any.error Eq (Connection.ofEquipment m (.ofDocument m))
      (Connection.ofEquipment m' (.ofDocument m')) :=
  (Revision.isRead_nothing .any).agree_cabling
    (fun key hkey => rel_of_eq Value.ListsBy.refl
      (h key (hcables key (List.mem_cons_of_mem _ hkey))))
    (h _ (hcables _ List.mem_cons_self))

section Single

variable {m m' : Mapping} {v : Value} (hv : v.IsEntity)
include hv

/-- A single rack is drawn like a list of it. -/
theorem agree_generate_rack (hkind : classifyMapping m ∈ [Kind.siteEquipment, .rackServers])
    (h : Mapping.Moved "rack" "racks" v (.list [v]) m m') (options : Dot.RenderOptions) :
    Agree Tolerance.any.error Eq (generate (.mapping m) options)
      (generate (.mapping m') options) := by
  have hread := Revision.isRead_nothing .any
  have hracks := hread.agree_racks (Field.agree_oneOrMany_moved Value.Revised.refl hv h)
  have hcabling := h.elsewhere.agree_cabling (by decide)
  have hclass : classifyMapping m = classifyMapping m' :=
    h.classify_eq .siteEquipment (markers.take 4) (markers.drop 6) rfl (by decide)
  apply Plan.Alike.agree_generate hclass
  obtain hkind | hkind : classifyMapping m = .siteEquipment ∨ classifyMapping m = .rackServers := by
    simpa using hkind
  · rw [hkind]
    have hsite := hread.agree_header (rel_of_eq (fun _ => ReflGen.refl)
      (h.elsewhere "site" (by decide)))
    exact Plan.alike_siteEquipment hracks hsite hcabling
  · rw [hkind]
    have hservers := hread.agree_rackServers hracks (rel_of_eq Value.MembersBy.refl
      (h.elsewhere "rack_servers" (by decide)))
    exact Plan.alike_rackServers hservers hcabling

/-- A single server is drawn like a list of it. -/
theorem agree_generate_server (hkind : classifyMapping m = .serverDetails)
    (h : Mapping.Moved "server" "servers" v (.list [v]) m m') (options : Dot.RenderOptions) :
    Agree Tolerance.any.error Eq (generate (.mapping m) options)
      (generate (.mapping m') options) := by
  have hread := Revision.isRead_nothing .any
  have hpeers := h.elsewhere.alike.listAlias ["devices", "peers"] (by decide)
  have hclass : classifyMapping m = classifyMapping m' :=
    h.classify_eq .serverDetails (markers.take 2) (markers.drop 4) rfl (by decide)
  apply Plan.Alike.agree_generate hclass
  rw [hkind]
  refine Plan.alike_serverDetails (Field.agree_oneOrMany_moved Value.Revised.refl hv h)
    (fun _ _ => hread.agree_servers) ?_ (h.elsewhere.agree_cabling (by decide))
  rw [Device.listIn, Device.listIn, hpeers]
  exact Tolerance.any.agree_of_eq rfl

end Single

theorem agree_generate_of_reshaped {d d' : Value} (h : Reshaped d d')
    (options : Dot.RenderOptions) :
    Agree Tolerance.any.error Eq (generate d options) (generate d' options) := by
  cases h with
  | shapes h => exact isRead_reshaping.agree_generate h options
  | rack hkind hv h => exact agree_generate_rack hv hkind h options
  | server hkind hv h => exact agree_generate_server hv hkind h options

/-- **The shapes of a document make no difference.** Documents that differ by any changes of shape
    both fail, or both succeed with the same result. -/
theorem drawn_alike_of_reshaped {d d' : Value} (h : EqvGen Reshaped d d')
    (options : Dot.RenderOptions) :
    ((∃ e, generate d options = .error e) ↔ ∃ e, generate d' options = .error e) ∧
    ∀ g g', generate d options = .ok g → generate d' options = .ok g' → g = g' := by
  have hagree : Agree Tolerance.any.error Eq (generate d options) (generate d' options) := by
    induction h with
    | rel d d' h => exact agree_generate_of_reshaped h options
    | refl d => exact Tolerance.any.agree_of_eq rfl
    | symm d d' _ ih => exact ih.symm fun _ _ h => h
    | trans d d' d'' _ _ ih ih' => exact ih.trans (fun _ _ _ _ h => h) ih'
  exact ⟨hagree.fails_iff, fun g g' hg hg' => hagree.ok_eq hg hg'⟩

/-- One rack, and a connection of its device `d` with itself. -/
def oneRack (rack source : Value) : Mapping :=
  [("racks", .list [rack]),
    ("connections", .list [.mapping [("from", source), ("to", .text "d")]])]

theorem reshaped_oneRack {rack rack' source source' : Value}
    (hrack : reshaping.InRack rack rack') (hsource : ReflGen Endpoint.Reshaped source source') :
    Reshaped (.mapping (oneRack rack source)) (.mapping (oneRack rack' source')) := by
  have hkind : classifyMapping (oneRack rack source) = .siteEquipment := rfl
  refine .shapes ?_
  rw [hkind]
  refine .cons ⟨rfl, ?_⟩ (.cons ⟨rfl, ?_⟩ .nil)
  · change Kind.siteEquipment.Revises reshaping "racks" _ _
    rw [Kind.Revises, ByField, if_pos (by decide)]
    exact .many (.cons hrack .nil)
  · change Kind.siteEquipment.Revises reshaping "connections" _ _
    rw [Kind.Revises, ByField, if_neg (by decide), ByField, if_neg (by decide), ByField,
      if_pos (by decide)]
    refine .lists (.cons (.fields (.mappings (.cons ?_ (.cons ?_ .nil)))) .nil)
    · rw [ByField, if_pos (by decide)]
      exact hsource
    · rw [ByField, if_pos (by decide)]

/-- The shortest shapes. -/
def terseRack : Mapping :=
  [("rack", .mapping [("equipment", .list [.text "d"])]),
    ("connections", .list [.mapping [("from", .text "d"), ("to", .text "d")]])]

/-- A rack with its device `d` under its other names, and an end of a connection as a mapping. -/
def verboseRack : Mapping :=
  oneRack (.mapping [("devices", .list [.mapping [("id", .text "d")]])])
    (.mapping [("device", .text "d")])

theorem eqvGen_oneRack : EqvGen Reshaped (.mapping terseRack) (.mapping verboseRack) := by
  have hlisted : Reshaped (.mapping terseRack)
      (.mapping (oneRack (.mapping [("equipment", .list [.text "d"])]) (.text "d"))) := by
    have hrack : Value.IsEntity (.mapping [("equipment", .list [.text "d"])]) := trivial
    refine .rack (by decide) hrack (Mapping.moved [] _ (by decide) ?_)
    decide
  have hrenamed : Reshaped
      (.mapping (oneRack (.mapping [("equipment", .list [.text "d"])]) (.text "d")))
      (.mapping (oneRack (.mapping [("devices", .list [.text "d"])])
        (.mapping [("device", .text "d")]))) := by
    refine reshaped_oneRack (.whole (.devices ⟨Mapping.moved [] [] (by decide) ?_⟩))
      (.single (.bare "d"))
    decide
  have hnamed : Reshaped
      (.mapping (oneRack (.mapping [("devices", .list [.text "d"])])
        (.mapping [("device", .text "d")]))) (.mapping verboseRack) := by
    have hdevice : reshaping.InDevice (.text "d") (.mapping [("id", .text "d")]) :=
      .whole (.bare ⟨by decide, by decide⟩)
    refine reshaped_oneRack (.fields (.mappings (.cons ?_ .nil))) .refl
    rw [ByField, if_pos (by decide)]
    exact .lists (.cons hdevice .nil)
  exact ((EqvGen.rel _ _ hlisted).trans _ _ _ (.rel _ _ hrenamed)).trans _ _ _ (.rel _ _ hnamed)

theorem drawn_alike_oneRack : ∃ g, generate (.mapping terseRack) .standard = .ok g ∧
    generate (.mapping verboseRack) .standard = .ok g ∧
    g.diagram.graph.edges.map (fun e => (e.source, e.target)) = [("d", "d")] := by
  have hedges : ((generate (.mapping terseRack) .standard).toOption.map fun g =>
      g.diagram.graph.edges.map fun e => (e.source, e.target)) = some [("d", "d")] := by
    decide +kernel
  obtain ⟨g, hg, hgedges⟩ := exists_of_toOption_map hedges
  obtain ⟨hfails, hequal⟩ := drawn_alike_of_reshaped eqvGen_oneRack .standard
  refine ⟨g, hg, ?_, hgedges⟩
  cases hg' : generate (.mapping verboseRack) .standard with
  | ok g' => rw [hequal g g' hg hg']
  | error e =>
    obtain ⟨e', he'⟩ := hfails.2 ⟨e, hg'⟩
    rw [hg] at he'
    cases he'

end InfraDiagram

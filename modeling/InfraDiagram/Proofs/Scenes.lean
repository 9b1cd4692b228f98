import InfraDiagram.Generate
import InfraDiagram.Proofs.Agreement

/-!
# What scenes are made of

A document is read as a whole before anything of it is drawn. For each kind of document, this is
what is read of it, and the scene that is made of what was read.

## Main definitions

- `Stages` — a document of a given kind and the scene that is made of it

## Main statements

- `Stages.of_scene` — a scene of a plan is staged by its document
- `Stages.scene_eq_ok` — what was read of a document settles the scene of its plan
- `Plan.agree_topology` — the plans of topologies that are read alike
-/

namespace InfraDiagram

open Dot Connection

theorem bind_eq_of_eq_ok {ε α β : Type} {m : Except ε α} {a : α} (h : m = .ok a)
    (f : α → Except ε β) : m >>= f = f a := by
  rw [h]
  rfl

/-- The scene of a document, with what was read to make it. A marker that holds null stands for a
    document with nothing in it. -/
inductive Stages (doc : Mapping) (options : RenderOptions) : Kind → Scene → Prop where
  | siteTopology {sites : List Site} {records : List Value}
      (hsites : Site.ofDocument doc = .ok sites)
      (hrecords : Field.list doc "connections" .root = .ok records) :
      Stages doc options .siteTopology
        { nodes := drawSites sites
          resolver := .ofSites sites
          links := decodeList records .site (Path.root.key "connections") .empty
          portLinks := [] }
  | siteEquipment {racks : List Rack} {site : Option Site} {cabling : Decoded}
      (hracks : Rack.ofDocument doc = .ok racks)
      (hsite : Site.header doc = .ok site)
      (hcabling : ofEquipment doc (.ofDocument doc) = .ok cabling) :
      Stages doc options .siteEquipment
        { nodes := drawRackDiagram site racks .device options
          resolver := .ofRacks racks
          links := cabling
          portLinks := [] }
  | rackServers {racks : List Rack} {cabling : Decoded}
      (hracks : Rack.ofServerDocument doc = .ok racks)
      (hcabling : ofEquipment doc (.ofDocument doc) = .ok cabling) :
      Stages doc options .rackServers
        { nodes := drawRackDiagram none racks .server options
          resolver := .ofRacks racks
          links := cabling
          portLinks := [] }
  | serverDetails {entities : List (Value × Path)} {servers peers : List Device}
      {cabling : Decoded}
      (hentities : Field.oneOrMany doc "server" "servers" .root = .ok entities)
      (hservers : (entities.zipIdx.mapM fun ((v, path), i) =>
        Device.ofValue v "server" i path "server") = .ok servers)
      (hpeers : Device.listIn doc ["devices", "peers"] "peer" .root "device" = .ok peers)
      (hcabling : ofEquipment doc (.ofDocument doc) = .ok cabling) :
      Stages doc options .serverDetails
        { nodes := drawServers servers peers options
          resolver := .ofDevices (servers ++ peers)
          links := cabling
          portLinks := InfraDiagram.portLinks servers }
  | topology {topology : Mapping} {devices : List Device} {inner outer : List Value}
      {innerPath : Path}
      (hmarker : Field.mapping (doc.get? "topology") (Path.root.key "topology") =
        .ok (some topology))
      (hdevices : Device.listIn topology ["devices", "nodes"] "device"
        (Path.root.key "topology") "device" = .ok devices)
      (hinner : Field.listAlias topology ["connections", "links"] (Path.root.key "topology") =
        .ok (inner, innerPath))
      (houter : Field.list doc "connections" .root = .ok outer) :
      Stages doc options .topology
        { nodes := drawZoned devices
          resolver := .ofDevices devices
          links := decodeList inner .link innerPath .empty ++
            decodeList outer .link (Path.root.key "connections") .empty
          portLinks := [] }
  | nullTopology
      (hmarker : Field.mapping (doc.get? "topology") (Path.root.key "topology") = .ok none) :
      Stages doc options .topology .nothing
  | device {value : Value} {device : Device} {records : List Value}
      (hmarker : doc.get? "device" = some value) (hvalue : value ≠ .null)
      (hdevice : Device.ofValue value "device" 0 (Path.root.key "device") "device" = .ok device)
      (hrecords : Field.list doc "connections" .root = .ok records) :
      Stages doc options .device
        { nodes := do return [← device.drawStack options]
          resolver := .ofDevices [device]
          links := decodeList records .link (Path.root.key "connections") .empty
          portLinks := [] }
  | nullDevice (hmarker : doc.get? "device" = none ∨ doc.get? "device" = some .null) :
      Stages doc options .device .nothing
  | links {records : List Value} {known : List Device}
      (hrecords : Field.list doc "links" .root = .ok records)
      (hknown : Device.listIn doc ["devices"] "device" .root "device" = .ok known) :
      Stages doc options .links
        { nodes := drawImplied (impliedNodes known
            (decodeList records .link (Path.root.key "links") .empty).connections)
          resolver := .ofDevices known
          links := decodeList records .link (Path.root.key "links") .empty
          portLinks := [] }
  | intent {intent : Mapping} {devices : List Device} {flows goals : List Value}
      {flowsPath goalsPath : Path}
      (hmarker : Field.mapping (doc.get? "intent") (Path.root.key "intent") = .ok (some intent))
      (hdevices : Device.listIn intent ["devices", "endpoints"] "device"
        (Path.root.key "intent") "device" = .ok devices)
      (hflows : Field.listAlias intent ["flows", "paths"] (Path.root.key "intent") =
        .ok (flows, flowsPath))
      (hgoals : Field.listAlias intent ["goals", "requirements"] (Path.root.key "intent") =
        .ok (goals, goalsPath)) :
      Stages doc options .intent
        { nodes := drawIntent (intentNote
            ((Field.firstText intent ["name", "id"]).getD "intent") intent goals) devices
          resolver := .ofDevices devices
          links := decodeList flows .flow flowsPath .empty
          portLinks := [] }
  | nullIntent
      (hmarker : Field.mapping (doc.get? "intent") (Path.root.key "intent") = .ok none) :
      Stages doc options .intent .nothing
  | unknown :
      Stages doc options .unknown
        { Scene.nothing with nodes := do
            warn (.unknownSchema doc.keys)
            return [] }

namespace Stages

variable {doc : Mapping} {options : RenderOptions} {kind : Kind} {scene : Scene}

theorem of_topology (h : (Plan.topology doc).scene = .ok scene) :
    Stages doc options .topology scene := by
  unfold Plan.topology at h
  split at h
  · cases h
  · rename_i hmarker
    cases h
    exact .nullTopology hmarker
  · rename_i topology hmarker
    obtain ⟨devices, hdevices, h⟩ := exists_of_bind_eq_ok h
    obtain ⟨⟨inner, innerPath⟩, hinner, h⟩ := exists_of_bind_eq_ok h
    obtain ⟨outer, houter, h⟩ := exists_of_bind_eq_ok h
    cases h
    exact .topology hmarker hdevices hinner houter

theorem of_device (h : (Plan.device doc options).scene = .ok scene) :
    Stages doc options .device scene := by
  unfold Plan.device at h
  split at h
  · rename_i hmarker
    cases h
    exact .nullDevice (.inl hmarker)
  · rename_i hmarker
    cases h
    exact .nullDevice (.inr hmarker)
  · rename_i value hvalue hmarker
    obtain ⟨device, hdevice, h⟩ := exists_of_bind_eq_ok h
    obtain ⟨records, hrecords, h⟩ := exists_of_bind_eq_ok h
    cases h
    exact .device hmarker (by simpa using hvalue) hdevice hrecords

theorem of_intent (h : (Plan.intent doc).scene = .ok scene) :
    Stages doc options .intent scene := by
  obtain ⟨marker, hmarker, h⟩ := exists_of_bind_eq_ok h
  cases marker with
  | none =>
    cases h
    exact .nullIntent hmarker
  | some intent =>
    obtain ⟨devices, hdevices, h⟩ := exists_of_bind_eq_ok h
    obtain ⟨⟨flows, flowsPath⟩, hflows, h⟩ := exists_of_bind_eq_ok h
    obtain ⟨⟨goals, goalsPath⟩, hgoals, h⟩ := exists_of_bind_eq_ok h
    cases h
    exact .intent hmarker hdevices hflows hgoals

/-- A scene of a plan is staged by its document. -/
theorem of_scene (h : (Plan.ofKind kind doc options).scene = .ok scene) :
    Stages doc options kind scene := by
  cases kind with
  | siteTopology =>
    obtain ⟨sites, hsites, h⟩ := exists_of_bind_eq_ok h
    obtain ⟨records, hrecords, h⟩ := exists_of_bind_eq_ok h
    cases h
    exact .siteTopology hsites hrecords
  | siteEquipment =>
    obtain ⟨racks, hracks, h⟩ := exists_of_bind_eq_ok h
    obtain ⟨site, hsite, h⟩ := exists_of_bind_eq_ok h
    obtain ⟨cabling, hcabling, h⟩ := exists_of_bind_eq_ok h
    cases h
    exact .siteEquipment hracks hsite hcabling
  | rackServers =>
    obtain ⟨racks, hracks, h⟩ := exists_of_bind_eq_ok h
    obtain ⟨cabling, hcabling, h⟩ := exists_of_bind_eq_ok h
    cases h
    exact .rackServers hracks hcabling
  | serverDetails =>
    obtain ⟨entities, hentities, h⟩ := exists_of_bind_eq_ok h
    obtain ⟨servers, hservers, h⟩ := exists_of_bind_eq_ok h
    obtain ⟨peers, hpeers, h⟩ := exists_of_bind_eq_ok h
    obtain ⟨cabling, hcabling, h⟩ := exists_of_bind_eq_ok h
    cases h
    exact .serverDetails hentities hservers hpeers hcabling
  | topology => exact of_topology h
  | device => exact of_device h
  | links =>
    obtain ⟨records, hrecords, h⟩ := exists_of_bind_eq_ok h
    obtain ⟨known, hknown, h⟩ := exists_of_bind_eq_ok h
    cases h
    exact .links hrecords hknown
  | intent => exact of_intent h
  | unknown =>
    cases h
    exact .unknown

/-- What was read of a document settles the scene of its plan. -/
theorem scene_eq_ok (h : Stages doc options kind scene) :
    (Plan.ofKind kind doc options).scene = .ok scene := by
  cases h with
  | siteTopology hsites hrecords =>
    exact (bind_eq_of_eq_ok hsites _).trans (bind_eq_of_eq_ok hrecords _)
  | siteEquipment hracks hsite hcabling =>
    exact (bind_eq_of_eq_ok hracks _).trans
      ((bind_eq_of_eq_ok hsite _).trans (bind_eq_of_eq_ok hcabling _))
  | rackServers hracks hcabling =>
    exact (bind_eq_of_eq_ok hracks _).trans (bind_eq_of_eq_ok hcabling _)
  | serverDetails hentities hservers hpeers hcabling =>
    exact (bind_eq_of_eq_ok hentities _).trans ((bind_eq_of_eq_ok hservers _).trans
      ((bind_eq_of_eq_ok hpeers _).trans (bind_eq_of_eq_ok hcabling _)))
  | topology hmarker hdevices hinner houter =>
    simp only [Plan.ofKind, Plan.topology, hmarker]
    exact (bind_eq_of_eq_ok hdevices _).trans
      ((bind_eq_of_eq_ok hinner _).trans (bind_eq_of_eq_ok houter _))
  | nullTopology hmarker =>
    simp only [Plan.ofKind, Plan.topology, hmarker]
    rfl
  | device hmarker hvalue hdevice hrecords =>
    simp only [Plan.ofKind, Plan.device, hmarker]
    exact (bind_eq_of_eq_ok hdevice _).trans (bind_eq_of_eq_ok hrecords _)
  | nullDevice hmarker =>
    rcases hmarker with hmarker | hmarker
    · simp only [Plan.ofKind, Plan.device, hmarker]
      rfl
    · simp only [Plan.ofKind, Plan.device, hmarker]
      rfl
  | links hrecords hknown =>
    exact (bind_eq_of_eq_ok hrecords _).trans (bind_eq_of_eq_ok hknown _)
  | intent hmarker hdevices hflows hgoals =>
    exact (bind_eq_of_eq_ok hmarker _).trans ((bind_eq_of_eq_ok hdevices _).trans
      ((bind_eq_of_eq_ok hflows _).trans (bind_eq_of_eq_ok hgoals _)))
  | nullIntent hmarker => exact bind_eq_of_eq_ok hmarker _
  | unknown => rfl

end Stages

/-- Topologies that are read alike have plans that agree. The comment with the name is written
    before the devices are read, whether they can be read or not. -/
theorem Plan.agree_topology {E : StructureError → StructureError → Prop}
    {R : Scene → Scene → Prop} {T : Mapping → Mapping → Prop} {m m' : Mapping}
    (hmarker : Agree E (Option.Rel T)
      (Field.mapping (m.get? "topology") (Path.root.key "topology"))
      (Field.mapping (m'.get? "topology") (Path.root.key "topology")))
    (hnothing : R .nothing .nothing)
    (hname : ∀ t t', T t t' → Field.text t "name" = Field.text t' "name")
    (hscene : ∀ t t', T t t' → Agree E R (topologyScene m t) (topologyScene m' t')) :
    (topology m).comments = (topology m').comments ∧
      Agree E R (topology m).scene (topology m').scene := by
  unfold topology
  generalize Field.mapping (m.get? "topology") (Path.root.key "topology") = r at hmarker ⊢
  generalize Field.mapping (m'.get? "topology") (Path.root.key "topology") = r' at hmarker ⊢
  cases hmarker with
  | error he => exact ⟨rfl, .error he⟩
  | ok hmarker =>
    cases hmarker with
    | none => exact ⟨rfl, .ok hnothing⟩
    | @some t t' h =>
      refine ⟨?_, hscene t t' h⟩
      change (Field.text t "name").toList.map _ = _
      rw [hname t t' h]

end InfraDiagram

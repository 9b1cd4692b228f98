import InfraDiagram.Proofs.Drawings
import Mathlib.Data.List.Perm.Lattice

/-!
# Which devices a program declares

The declarations of devices that a drawing program makes do not depend on the identifiers it is
given on the way, so they are known before it runs: their number, their order and all they say.

## Main definitions

- `Log.devices` — the devices that were declared, in order
- `Enlists` — a program that declares given devices in their order, and no others

## Main statements

- `Enlists.bind`, `Enlists.mapM`, `Enlists.inCluster` — the rules for composed programs
- `enlists_rackDiagram`, `enlists_servers`, `enlists_zoned`, `enlists_intent`, `enlists_stack`,
  `enlists_implied` — the devices of each kind of diagram
- `perm_rackOrder`, `perm_zoneOrder` — racks and zones change the order of devices only
-/

namespace InfraDiagram

open Dot

/-- The devices that were declared, in order, with their identifiers. -/
def Log.devices (l : Log) : List Call :=
  l.calls.filter fun call => call.1.entity.isDevice

@[simp]
theorem Log.devices_append (a b : Log) : (a ++ b).devices = a.devices ++ b.devices :=
  List.filter_append ..

/-- From every canvas, the program makes steps that declare the given devices in their order, and
    no other devices. -/
def Enlists {α : Type} (m : Draw α) (ds : List Declaration) : Prop :=
  ∀ c : Canvas, ∃ es, (m c).2 = run es c ∧ (logOf es c).devices.map Prod.fst = ds

-- ════════════════════════════════════════════════════════════════════════
-- Structural rules
-- ════════════════════════════════════════════════════════════════════════

namespace Enlists

variable {α β : Type} {ds ds' : List Declaration}

theorem pure {a : α} : Enlists (Pure.pure a : Draw α) [] :=
  fun _ => ⟨[], rfl, rfl⟩

theorem bind {m : Draw α} {f : α → Draw β} (hm : Enlists m ds) (hf : ∀ a, Enlists (f a) ds') :
    Enlists (m >>= f) (ds ++ ds') := by
  intro c
  obtain ⟨es, hrun, hlog⟩ := hm c
  obtain ⟨es', hrun', hlog'⟩ := hf (m c).1 (run es c)
  refine ⟨es ++ es', ?_, ?_⟩
  · rw [run_append, ← hrun', ← hrun]
    rfl
  · rw [logOf_append, Log.devices_append, List.map_append, hlog, hlog']

/-- What follows a program without declaring devices does not matter. -/
theorem andThen {m : Draw α} {f : α → Draw β} (hm : Enlists m ds) (hf : ∀ a, Enlists (f a) []) :
    Enlists (m >>= f) ds := by
  have h := hm.bind hf
  rwa [List.append_nil] at h

theorem mapM {f : α → Draw β} {g : α → List Declaration} {xs : List α}
    (h : ∀ x, Enlists (f x) (g x)) : Enlists (xs.mapM f) (xs.flatMap g) := by
  induction xs with
  | nil => exact pure
  | cons x xs ih =>
    rw [List.mapM_cons, List.flatMap_cons]
    exact (h x).bind fun _ => ih.andThen fun _ => pure

/-- Each item declares one device. -/
theorem mapM_one {f : α → Draw β} {g : α → Declaration} {xs : List α}
    (h : ∀ x, Enlists (f x) [g x]) : Enlists (xs.mapM f) (xs.map g) := by
  rw [List.map_eq_flatMap]
  exact mapM h

theorem mapM_nil {f : α → Draw β} {xs : List α} (h : ∀ x, Enlists (f x) []) :
    Enlists (xs.mapM f) [] := by
  have hmap : Enlists (xs.mapM f) (xs.flatMap fun _ => []) := mapM h
  rwa [List.flatMap_eq_nil_iff.2 fun _ _ => rfl] at hmap

theorem forM_nil {f : α → Draw PUnit} {xs : List α} (h : ∀ x, Enlists (f x) []) :
    Enlists (xs.forM f) [] := by
  induction xs with
  | nil => exact pure
  | cons x xs ih => exact (h x).bind fun _ => ih

/-- A program that makes a single step. -/
theorem step {m : Draw α} (e : Event) (happly : ∀ c, (m c).2 = e.apply c)
    (hlog : ∀ c, (e.log c).devices.map Prod.fst = ds) : Enlists m ds := by
  intro c
  refine ⟨[e], happly c, ?_⟩
  rw [logOf, logOf, Log.append_empty]
  exact hlog c

theorem device {d : Declaration} (h : d.entity.isDevice = true) :
    Enlists (InfraDiagram.declare d) [d] :=
  step (.node d) (fun _ => rfl) fun _ => by simp [Event.log, Log.devices, h]

theorem other {d : Declaration} (h : d.entity.isDevice = false) :
    Enlists (InfraDiagram.declare d) [] :=
  step (.node d) (fun _ => rfl) fun _ => by simp [Event.log, Log.devices, h]

theorem edge (source target : String) (attrs : Attrs) :
    Enlists (InfraDiagram.edge source target attrs) [] :=
  step (.edge source target attrs) (fun _ => rfl) fun _ => rfl

theorem orderingEdge (source target : String) :
    Enlists (InfraDiagram.orderingEdge source target) [] :=
  step (.ordering source target) (fun _ => rfl) fun _ => rfl

theorem comment (text : String) : Enlists (InfraDiagram.comment text) [] :=
  step (.comment text) (fun _ => rfl) fun _ => rfl

theorem warn (d : Diagnostic) : Enlists (InfraDiagram.warn d) [] :=
  step (.warn d) (fun _ => rfl) fun _ => rfl

theorem inCluster {key : String} {attrs : Attrs} {body : Draw α} (h : Enlists body ds) :
    Enlists (InfraDiagram.inCluster key attrs body) ds := by
  intro c
  obtain ⟨es, hrun, hlog⟩ := h (c.openCluster key attrs)
  refine ⟨.opening key attrs :: (es ++ [.closing]), ?_, ?_⟩
  · rw [run_cons, run_append]
    exact congrArg Canvas.closeCluster hrun
  · have hempty : logOf [.closing] (run es (c.openCluster key attrs)) = .empty := rfl
    rw [logOf, logOf_append]
    exact (Log.append_empty _).symm ▸ hlog

/-- Devices that are declared one by one. -/
theorem each {xs : List α} {declaration : α → Declaration} {f : α → String → β}
    (h : ∀ x, (declaration x).entity.isDevice = true) :
    Enlists
      (xs.mapM fun x => do
        let node ← InfraDiagram.declare (declaration x)
        return f x node)
      (xs.map declaration) :=
  mapM_one fun x => (device (h x)).andThen fun _ => pure

end Enlists

theorem enlists_orderChain (ids : List String) : Enlists (orderChain ids) [] :=
  Enlists.forM_nil fun _ => .orderingEdge _ _

theorem enlists_sideBySide (ids : List String) : Enlists (sideBySide ids) [] := by
  unfold sideBySide
  split_ifs
  · exact .step (.sameRank ids) (fun _ => rfl) fun _ => rfl
  · exact .pure

-- ════════════════════════════════════════════════════════════════════════
-- Devices of each kind of diagram
-- ════════════════════════════════════════════════════════════════════════

theorem enlists_sites (sites : List Site) : Enlists (drawSites sites) [] :=
  Enlists.mapM_nil fun _ => (Enlists.other rfl).andThen fun _ => .pure

theorem Port.enlists_draw (owner : String) (p : Port) : Enlists (p.draw owner) [] :=
  (Enlists.other rfl).andThen fun _ => .pure

theorem Device.enlists_ports (d : Device) : Enlists d.drawPorts [] :=
  Enlists.mapM_nil fun p => p.enlists_draw d.id

theorem Device.enlists_placeAt (d : Device) (node : String) (options : RenderOptions) :
    Enlists (d.placeAt node options) [] := by
  unfold placeAt
  split_ifs
  · exact Enlists.andThen (Enlists.mapM_nil fun p =>
      (p.enlists_draw d.id).andThen fun port =>
        (Enlists.edge node port.2 Style.portLink).andThen fun _ => .pure)
      fun _ => .pure
  · exact Enlists.pure.andThen fun _ => .pure

/-- The devices of racks from top to bottom, rack by rack. -/
def rackOrder (racks : List Rack) : List Device :=
  racks.flatMap fun rack => Rack.displayOrder rack.devices

theorem enlists_rack (rack : Rack) {entity : EntityType} (h : entity.isDevice = true)
    (options : RenderOptions) :
    Enlists (rack.draw entity options)
      ((Rack.displayOrder rack.devices).map fun d => d.declaration entity true) := by
  refine .inCluster ((Enlists.other rfl).bind fun anchor => ?_)
  have hdevices : Enlists
      ((Rack.displayOrder rack.devices).mapM fun d => declare (d.declaration entity true))
      ((Rack.displayOrder rack.devices).map fun d => d.declaration entity true) :=
    Enlists.mapM_one fun d => Enlists.device (d := d.declaration entity true) h
  refine hdevices.andThen fun nodes => ?_
  have hplaced : Enlists
      (((Rack.displayOrder rack.devices).zip nodes).mapM fun x => x.1.placeAt x.2 options) [] :=
    Enlists.mapM_nil fun x => x.1.enlists_placeAt x.2 options
  exact hplaced.andThen fun _ => (enlists_orderChain _).andThen fun _ => .pure

theorem enlists_rackDiagram (site : Option Site) (racks : List Rack) {entity : EntityType}
    (h : entity.isDevice = true) (options : RenderOptions) :
    Enlists (drawRackDiagram site racks entity options)
      ((rackOrder racks).map fun d => d.declaration entity true) := by
  have hracks : Enlists (drawRacks racks entity options)
      ((rackOrder racks).map fun d => d.declaration entity true) := by
    rw [rackOrder, List.map_flatMap]
    exact Enlists.mapM fun rack => enlists_rack rack h options
  cases site with
  | none => exact hracks.andThen fun _ => (enlists_sideBySide _).andThen fun _ => .pure
  | some s =>
    exact (Enlists.inCluster hracks).andThen fun _ => (enlists_sideBySide _).andThen fun _ => .pure

theorem Device.enlists_portFrame (server : Device) (anchor : String) :
    Enlists (server.drawPortFrame anchor) [] := by
  refine Enlists.andThen (Enlists.inCluster (server.enlists_ports.andThen fun _ =>
    (enlists_orderChain _).andThen fun _ => .pure)) fun ports => ?_
  have horder : Enlists (ports.head?.forM fun first => InfraDiagram.orderingEdge anchor first.2)
      [] := by
    cases ports with
    | nil => exact .pure
    | cons first rest => exact .orderingEdge anchor first.2
  exact horder.andThen fun _ => .pure

theorem enlists_server (server : Device) (options : RenderOptions) :
    Enlists (server.drawServer options) [server.serverDeclaration] := by
  refine .inCluster ((Enlists.device rfl).andThen fun anchor => ?_)
  split_ifs
  · exact (server.enlists_portFrame anchor).andThen fun _ => .pure
  · exact Enlists.pure.andThen fun _ => .pure

theorem enlists_servers (servers peers : List Device) (options : RenderOptions) :
    Enlists (drawServers servers peers options)
      (servers.map Device.serverDeclaration ++ peers.map Device.peerDeclaration) := by
  refine (Enlists.mapM_one fun s => enlists_server s options).bind fun placed => ?_
  have hpeers : Enlists (peers.mapM Device.drawPeer) (peers.map Device.peerDeclaration) :=
    Enlists.each fun _ => rfl
  exact (enlists_orderChain _).bind fun _ => hpeers.andThen fun _ => .pure

theorem enlists_devices (devices : List Device) :
    Enlists (drawDevices devices) (devices.map fun d => d.declaration .device false) :=
  Enlists.each fun _ => rfl

/-- Devices without a zone, then those of each zone. -/
def zoneOrder (devices : List Device) : List Device :=
  devices.filter (·.zone.isNone) ++
    (zonesOf devices).flatMap fun zone => devices.filter (·.zone == some zone)

theorem enlists_zoned (devices : List Device) :
    Enlists (drawZoned devices) ((zoneOrder devices).map fun d => d.declaration .device false) := by
  rw [zoneOrder, List.map_append, List.map_flatMap]
  refine (enlists_devices _).bind fun free => ?_
  exact (Enlists.mapM fun zone => .inCluster (enlists_devices _)).andThen fun _ => .pure

theorem enlists_intent {note : Declaration} (h : note.entity = .intent) (devices : List Device) :
    Enlists (drawIntent note devices)
      ((zoneOrder devices).map fun d => d.declaration .device false) := by
  refine (Enlists.other (by rw [h]; rfl)).bind fun noteId => ?_
  refine (enlists_zoned devices).andThen fun placed => ?_
  have horder : Enlists (placed.head?.forM fun first => orderingEdge noteId first.node) [] := by
    cases placed with
    | nil => exact .pure
    | cons first rest => exact .orderingEdge noteId first.node
  exact horder.andThen fun _ => .pure

theorem enlists_stack (d : Device) (options : RenderOptions) :
    Enlists (d.drawStack options) [d.anchorDeclaration] := by
  refine .inCluster ((Enlists.device rfl).andThen fun anchor => ?_)
  split_ifs
  · exact d.enlists_ports.andThen fun _ => (enlists_orderChain _).andThen fun _ => .pure
  · exact Enlists.pure.andThen fun _ => (enlists_orderChain _).andThen fun _ => .pure

theorem enlists_implied (nodes : List Implied) :
    Enlists (drawImplied nodes) (nodes.map Implied.declaration) :=
  Enlists.each fun n => by obtain ⟨key, _ | d⟩ := n <;> rfl

-- ════════════════════════════════════════════════════════════════════════
-- Orders
-- ════════════════════════════════════════════════════════════════════════

theorem perm_rackOrder (racks : List Rack) :
    (rackOrder racks).Perm (racks.flatMap (·.devices)) :=
  List.Perm.flatMap_left racks fun rack _ => List.mergeSort_perm rack.devices _

theorem nodup_eraseDups {α : Type} [BEq α] [LawfulBEq α] (xs : List α) : xs.eraseDups.Nodup := by
  match xs with
  | [] => exact .nil
  | x :: xs =>
    rw [List.eraseDups_cons, List.nodup_cons]
    exact ⟨fun hmem => by simpa using List.mem_eraseDups.1 hmem, nodup_eraseDups _⟩
termination_by xs.length
decreasing_by exact Nat.lt_succ_of_le (List.length_filter_le ..)

/-- The items of a list, sorted by the values of a function on them, are the same items. -/
theorem perm_flatMap_filter {α β : Type} [BEq β] [LawfulBEq β] (f : α → β) {ks : List β}
    (hks : ks.Nodup) (xs : List α) :
    (ks.flatMap fun k => xs.filter fun x => f x == k).Perm
      (xs.filter fun x => ks.contains (f x)) := by
  induction ks with
  | nil => simp
  | cons k ks ih =>
    rw [List.nodup_cons] at hks
    rw [List.flatMap_cons]
    -- the first value and the others divide the list, since the values differ
    have hsplit := List.filter_append_perm (fun x => f x == k)
      (xs.filter fun x => (k :: ks).contains (f x))
    rw [List.filter_filter, List.filter_filter] at hsplit
    refine ((ih hks.2).append_left _).trans (.trans (.of_eq ?_) hsplit)
    congr 1
    · refine List.filter_congr fun x _ => ?_
      by_cases hx : f x = k <;> simp [hx]
    · refine List.filter_congr fun x _ => ?_
      by_cases hx : f x = k
      · simp [hx, hks.1]
      · simp [hx]

theorem perm_zoneOrder (devices : List Device) : (zoneOrder devices).Perm devices := by
  have hzones : (none :: (zonesOf devices).map some).Nodup := by
    rw [List.nodup_cons]
    exact ⟨by simp, (nodup_eraseDups _).map (Option.some_injective _)⟩
  have hall : ∀ d ∈ devices, d.zone ∈ none :: (zonesOf devices).map some := by
    intro d hd
    cases hzone : d.zone with
    | none => simp
    | some zone =>
      have hmem : zone ∈ zonesOf devices :=
        List.mem_eraseDups.2 (List.mem_filterMap.2 ⟨d, hd, hzone⟩)
      exact List.mem_cons_of_mem _ (List.mem_map_of_mem hmem)
  have hperm := (perm_flatMap_filter Device.zone hzones devices).trans
    (.of_eq (List.filter_eq_self.2 fun d hd => List.contains_iff_mem.2 (hall d hd)))
  rw [List.flatMap_cons, List.flatMap_map] at hperm
  refine .trans (.of_eq ?_) hperm
  rw [zoneOrder]
  congr 1
  exact List.filter_congr fun d _ => by cases d.zone <;> rfl

end InfraDiagram

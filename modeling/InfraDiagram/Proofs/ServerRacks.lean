import InfraDiagram.Proofs.RackLayout
import Mathlib.Algebra.GroupWithZero.Nat

/-!
# Racks and their servers come together without loss

The servers of a document are listed by rack, next to the racks that it describes. Each list ends
up behind the devices of the rack it names, or in a rack of its own, while the list of racks grows
from one entry to the next.

## Main definitions

- `Share` — what one entry has for its rack
- `unmet` — the entries that name no rack before them
- `Rack.Merges` — racks to which entries have been added so far
- `Rack.Merged` — racks with all of their servers

## Main statements

- `devicesAt_mount` — one step changes the first rack of its name, and no other one
- `Rack.Merges.mount`, `Rack.exists_merges` — one entry, and all of them
- `Rack.merged_of_ofServerDocument` — every document that lists its servers by rack
-/

namespace InfraDiagram

/-- What one entry has for the rack that it names. -/
structure Share where
  key : String
  label : Option String
  items : List Value
  servers : List Device

/-- The share that is read from one member of the mapping. The servers are read from its items at
    the positions that they have in the end. -/
structure Share.Reads (member : String × Value) (s : Share) : Prop where
  key : s.key = member.1
  entry : Rack.serverEntry member.2 ((Path.root.key "rack_servers").key member.1) =
    .ok (s.items, s.label)
  servers : List.Forall₂ (fun item d => Device.ofValue item.1 s.key d.order
    (((Path.root.key "rack_servers").key member.1).index item.2) "server" = .ok d)
    s.items.zipIdx s.servers

theorem Share.Reads.length_eq {member : String × Value} {s : Share} (h : s.Reads member) :
    s.servers.length = s.items.length := by
  rw [← h.servers.length_eq, List.length_zipIdx]

/-- The entries whose key is the name of no rack before them. -/
def unmet (names : List String) : List Share → List Share
  | [] => []
  | s :: rest => if s.key ∈ names then unmet names rest else s :: unmet (names ++ [s.key]) rest

theorem unmet_concat (names : List String) (shares : List Share) (s : Share) :
    unmet names (shares ++ [s]) = unmet names shares ++
      if s.key ∈ names ++ (unmet names shares).map (·.key) then [] else [s] := by
  induction shares generalizing names with
  | nil =>
    by_cases hkey : s.key ∈ names <;> simp [unmet, hkey]
  | cons first shares ih =>
    rw [List.cons_append, unmet, unmet, ih, ih]
    by_cases hfirst : first.key ∈ names
    · rw [if_pos hfirst, if_pos hfirst]
    · rw [if_neg hfirst, if_neg hfirst, List.map_cons, List.append_assoc]
      rfl

-- ════════════════════════════════════════════════════════════════════════
-- One step
-- ════════════════════════════════════════════════════════════════════════

namespace Rack

/-- The devices of the rack at a position; there are none where there is no rack. -/
def devicesAt (racks : List Rack) (p : Nat) : List Device :=
  (racks[p]?.map (·.devices)).getD []

/-- The name and the label of a rack. -/
def head (r : Rack) : String × String :=
  (r.id, r.label)

section

variable (id label : String) (devices : List Device) (racks : List Rack)

/-- Servers go to the first rack of their name, and behind all racks if there is none. -/
theorem devicesAt_mount (p : Nat) :
    devicesAt (mount id label devices racks) p =
      devicesAt racks p ++ if (racks.map (·.id)).idxOf id = p then devices else [] := by
  induction racks generalizing p with
  | nil => cases p <;> rfl
  | cons r rest ih =>
    rw [mount, List.map_cons]
    by_cases hid : r.id = id
    · rw [if_pos hid, hid, List.idxOf_cons_self]
      cases p with
      | zero => rfl
      | succ p => exact (List.append_nil _).symm
    · rw [if_neg hid, List.idxOf_cons_ne _ hid]
      cases p with
      | zero => exact (List.append_nil _).symm
      | succ p =>
        simp only [Nat.succ_eq_add_one, Nat.add_right_cancel_iff]
        exact ih p

/-- Names and labels stay; a name that no rack has gets a rack behind all others. -/
theorem map_head_mount :
    (mount id label devices racks).map head =
      racks.map head ++ if id ∈ racks.map (·.id) then [] else [(id, label)] := by
  induction racks with
  | nil => rfl
  | cons r rest ih =>
    rw [mount]
    by_cases hid : r.id = id
    · rw [if_pos hid, if_pos (by simp [hid]), List.append_nil]
      rfl
    · have hmem : id ∈ (r :: rest).map (·.id) ↔ id ∈ rest.map (·.id) := by
        simp [Ne.symm hid]
      rw [if_neg hid, List.map_cons, ih]
      simp only [hmem]
      rfl

theorem map_id_mount :
    (mount id label devices racks).map (·.id) =
      racks.map (·.id) ++ if id ∈ racks.map (·.id) then [] else [id] := by
  have hfst := congrArg (List.map Prod.fst) (map_head_mount id label devices racks)
  rwa [List.map_append, List.map_map, List.map_map, apply_ite (List.map Prod.fst)] at hfst

/-- A name stays where it is, and a new one is found where none was. -/
theorem idxOf_mount {key : String} (hkey : key ∈ racks.map (·.id) ∨ key = id) :
    ((mount id label devices racks).map (·.id)).idxOf key = (racks.map (·.id)).idxOf key := by
  rw [map_id_mount]
  by_cases hmem : key ∈ racks.map (·.id)
  · exact List.idxOf_append_of_mem hmem
  · obtain rfl := hkey.resolve_left hmem
    rw [if_neg hmem, List.idxOf_append_of_notMem hmem, List.idxOf_cons_self,
      List.idxOf_of_notMem hmem, Nat.add_zero]

theorem sum_length_mount :
    ((mount id label devices racks).map fun r => r.devices.length).sum =
      (racks.map fun r => r.devices.length).sum + devices.length := by
  induction racks with
  | nil => exact Nat.add_comm ..
  | cons r rest ih =>
    rw [mount]
    by_cases hid : r.id = id
    · rw [if_pos hid]
      simp only [List.map_cons, List.sum_cons, List.length_append]
      omega
    · rw [if_neg hid, List.map_cons, List.map_cons, List.sum_cons, List.sum_cons, ih]
      omega

/-- A rack of a name is the one at the first position of the name. -/
theorem find?_eq_getElem? :
    racks.find? (fun r => r.id == id) = racks[(racks.map (·.id)).idxOf id]? := by
  induction racks with
  | nil => rfl
  | cons r rest ih =>
    rw [List.map_cons]
    by_cases hid : r.id = id
    · rw [List.find?_cons_of_pos (by simp [hid]), hid, List.idxOf_cons_self]
      rfl
    · rw [List.find?_cons_of_neg (by simp [hid]), List.idxOf_cons_ne _ hid, ih]
      rfl

end

-- ════════════════════════════════════════════════════════════════════════
-- All steps
-- ════════════════════════════════════════════════════════════════════════

/-- Racks to which the shares have been added: no rack is lost or renamed, the servers of a share
    stand behind the devices of the first rack of its name, in the order of the shares, and nowhere
    else. -/
structure Merges (listed : List Rack) (shares : List Share) (racks : List Rack) : Prop where
  heads : racks.map head = listed.map head ++
    (unmet (listed.map (·.id)) shares).map fun s => (s.key, s.label.getD s.key)
  devices : ∀ p, devicesAt racks p = devicesAt listed p ++
    (shares.filter fun s => (racks.map (·.id)).idxOf s.key = p).flatMap (·.servers)
  total : (racks.map fun r => r.devices.length).sum =
    (listed.map fun r => r.devices.length).sum + (shares.map fun s => s.items.length).sum
  met : ∀ s ∈ shares, s.key ∈ racks.map (·.id)

namespace Merges

variable {listed racks : List Rack} {shares : List Share}

theorem refl (listed : List Rack) : Merges listed [] listed where
  heads := (List.append_nil _).symm
  devices _ := (List.append_nil _).symm
  total := rfl
  met := fun _ hs => absurd hs List.not_mem_nil

theorem ids_eq (h : Merges listed shares racks) :
    racks.map (·.id) =
      listed.map (·.id) ++ (unmet (listed.map (·.id)) shares).map (·.key) := by
  have hids := congrArg (List.map Prod.fst) h.heads
  rwa [List.map_append, List.map_map, List.map_map, List.map_map] at hids

/-- One more share, whose name stays where it is if there is a rack of it. -/
theorem mount (h : Merges listed shares racks) {s : Share}
    (hlength : s.servers.length = s.items.length) :
    Merges listed (shares ++ [s]) (Rack.mount s.key (s.label.getD s.key) s.servers racks) := by
  exact {
    heads := by
      rw [map_head_mount, h.heads, unmet_concat, List.map_append, List.append_assoc, ← h.ids_eq]
      by_cases hmem : s.key ∈ racks.map (·.id)
      · rw [if_pos hmem, if_pos hmem]
        rfl
      · rw [if_neg hmem, if_neg hmem]
        rfl
    devices := by
      intro p
      have hold : (shares.filter fun s' => ((Rack.mount s.key (s.label.getD s.key) s.servers
          racks).map (·.id)).idxOf s'.key = p) =
          shares.filter fun s' => (racks.map (·.id)).idxOf s'.key = p :=
        List.filter_congr fun s' hs' => by rw [idxOf_mount _ _ _ _ (.inl (h.met s' hs'))]
      rw [devicesAt_mount, h.devices, List.filter_append, List.flatMap_append, hold,
        List.append_assoc]
      congr 2
      rw [List.filter_cons, idxOf_mount _ _ _ _ (.inr rfl)]
      by_cases hp : (racks.map (·.id)).idxOf s.key = p <;> simp [hp]
    total := by
      rw [sum_length_mount, h.total, List.map_append, List.sum_append, hlength]
      exact Nat.add_assoc ..
    met := by
      rw [map_id_mount]
      refine List.forall_mem_append.2 ⟨fun s' hs' => ?_, fun s' hs' => ?_⟩
      · exact List.mem_append_left _ (h.met s' hs')
      · rw [List.mem_singleton.1 hs']
        by_cases hmem : s.key ∈ racks.map (·.id) <;> simp [hmem] }

end Merges

theorem exists_share_of_mountEntry {racks racks' : List Rack} {member : String × Value}
    (h : mountEntry racks member = .ok racks') :
    ∃ s : Share, s.Reads member ∧ racks' = mount s.key (s.label.getD s.key) s.servers racks := by
  obtain ⟨⟨items, label⟩, hentry, h⟩ := exists_of_bind_eq_ok h
  obtain ⟨devices, hdevices, h⟩ := exists_of_bind_eq_ok h
  cases h
  refine ⟨⟨member.1, label, items, devices⟩, ⟨rfl, hentry, ?_⟩, rfl⟩
  refine (forall₂_of_mapM hdevices).imp fun item d hd => ?_
  -- the position behind the devices before is the order of the device
  rw [Device.order_of_ofValue hd]
  exact hd

theorem exists_merges {listed : List Rack} {entries : Mapping} {shares : List Share}
    {racks racks' : List Rack} (hmerges : Merges listed shares racks)
    (h : entries.foldlM mountEntry racks = .ok racks') :
    ∃ added, List.Forall₂ (fun member s => Share.Reads member s) entries added ∧
      Merges listed (shares ++ added) racks' := by
  induction entries generalizing shares racks with
  | nil =>
    cases h
    exact ⟨[], .nil, (List.append_nil shares).symm ▸ hmerges⟩
  | cons member entries ih =>
    rw [List.foldlM_cons] at h
    obtain ⟨mounted, hmounted, h⟩ := exists_of_bind_eq_ok h
    obtain ⟨s, hs, rfl⟩ := exists_share_of_mountEntry hmounted
    obtain ⟨added, hadded, hall⟩ := ih (hmerges.mount hs.length_eq) h
    refine ⟨s :: added, .cons hs hadded, ?_⟩
    rwa [List.append_assoc] at hall

-- ════════════════════════════════════════════════════════════════════════
-- Racks with all of their servers
-- ════════════════════════════════════════════════════════════════════════

/-- Racks with all of their servers: every device knows its final place in its rack. -/
structure Merged (listed : List Rack) (shares : List Share) (racks : List Rack) : Prop
    extends Merges listed shares racks where
  numbered : ∀ r ∈ racks, InOrder r.devices
  placed : ∀ s ∈ shares, ∀ d ∈ s.servers,
    ∃ r, racks.find? (fun r => r.id == s.key) = some r ∧ r.devices[d.order]? = some d
  /-- A server without a name is named by its rack and its final place. -/
  unnamed : ∀ s ∈ shares, ∀ (i : Nat) (m : Mapping), s.items[i]? = some (.mapping m) →
    Field.firstText m ["id", "name", "hostname"] = none →
    ∃ r j d, s.servers[i]? = some d ∧ racks.find? (fun r => r.id == s.key) = some r ∧
      r.devices[j]? = some d ∧ d.id = s.key ++ "_" ++ toString (j + 1)

end Rack

theorem InOrder.getElem?_order {devices : List Device} (h : InOrder devices) {d : Device}
    (hd : d ∈ devices) : devices[d.order]? = some d := by
  obtain ⟨j, hj, rfl⟩ := List.mem_iff_getElem.1 hd
  have hplace : devices[j].order = j := by
    have hat := congrArg (fun orders => orders[j]?) h
    simp only [List.getElem?_map, List.getElem?_eq_getElem hj, Option.map_some,
      List.getElem?_range hj, Option.some.injEq] at hat
    exact hat
  rw [hplace]
  exact List.getElem?_eq_getElem hj

/-- A device without a name is named by its parent and its place. -/
theorem Device.id_of_unnamed {m : Mapping} {parent : String} {index : Nat} {path : Path}
    {defaultType : String} {d : Device}
    (h : ofValue (.mapping m) parent index path defaultType = .ok d)
    (hnone : Field.firstText m ["id", "name", "hostname"] = none) :
    d.id = parent ++ "_" ++ toString (index + 1) := by
  obtain ⟨ports, -, h⟩ := exists_of_bind_eq_ok h
  cases h
  show (Field.firstText m ["id", "name", "hostname"]).getD _ = _
  rw [hnone]
  rfl

namespace Rack

/-- The servers of a share are found at their places in the first rack of its name. -/
theorem Merges.placed {listed racks : List Rack} {shares : List Share}
    (h : Merges listed shares racks) (hnumbered : ∀ r ∈ racks, InOrder r.devices) {s : Share}
    (hs : s ∈ shares) {d : Device} (hd : d ∈ s.servers) :
    ∃ r, racks.find? (fun r => r.id == s.key) = some r ∧ r.devices[d.order]? = some d := by
  have hlt := List.idxOf_lt_length_of_mem (h.met s hs)
  rw [List.length_map] at hlt
  have hat := h.devices ((racks.map (·.id)).idxOf s.key)
  rw [devicesAt, List.getElem?_eq_getElem hlt] at hat
  have hmem : d ∈ racks[(racks.map (·.id)).idxOf s.key].devices := by
    show d ∈ (Option.map _ (some _)).getD []
    rw [hat]
    refine List.mem_append_right _ (List.mem_flatMap.2 ⟨s, ?_, hd⟩)
    exact List.mem_filter.2 ⟨hs, by simp⟩
  refine ⟨_, (find?_eq_getElem? ..).trans (List.getElem?_eq_getElem hlt), ?_⟩
  exact InOrder.getElem?_order (hnumbered _ (List.getElem_mem hlt)) hmem

/-- Racks whose shares were read from a mapping and whose devices are numbered. -/
theorem Merges.merged {listed racks : List Rack} {shares : List Share} {members : Mapping}
    (h : Merges listed shares racks) (hnumbered : ∀ r ∈ racks, InOrder r.devices)
    (hshares : List.Forall₂ (fun member s => Share.Reads member s) members shares) :
    Merged listed shares racks where
  toMerges := h
  numbered := hnumbered
  placed _ hs _ hd := h.placed hnumbered hs hd
  unnamed := by
    intro s hs i m hitem hnone
    obtain ⟨member, hreads⟩ : ∃ member : String × Value, s.Reads member := by
      obtain ⟨n, hn, rfl⟩ := List.mem_iff_getElem.1 hs
      exact ⟨_, hshares.get (hshares.length_eq.symm ▸ hn) hn⟩
    obtain ⟨hi, hvalue⟩ := List.getElem?_eq_some_iff.1 hitem
    have hlt : i < s.servers.length := hreads.length_eq.symm ▸ hi
    have hread := hreads.servers.get (by rwa [List.length_zipIdx]) hlt
    rw [List.get_eq_getElem, List.get_eq_getElem, List.getElem_zipIdx, hvalue] at hread
    obtain ⟨r, hr, hplace⟩ := h.placed hnumbered hs (List.getElem_mem hlt)
    exact ⟨r, _, _, List.getElem?_eq_getElem hlt, hr, hplace, Device.id_of_unnamed hread hnone⟩

/-- The mapping from rack ids to servers; a document without one has no entries. -/
def serverMembers (doc : Mapping) : Mapping :=
  ((doc.get? "rack_servers").bind Value.mapping?).getD []

/-- **Racks and their servers come together without loss.** The racks that a document describes stay
    as they are and where they are, a rack follows for each name that none of them has, and the
    servers of an entry stand behind the devices of the first rack of its name, nowhere else. -/
theorem merged_of_ofServerDocument {doc : Mapping} {racks : List Rack}
    (h : ofServerDocument doc = .ok racks) :
    ∃ listed shares, ofDocument doc = .ok listed ∧
      List.Forall₂ (fun member s => Share.Reads member s) (serverMembers doc) shares ∧
      Merged listed shares racks := by
  have hnumbered := inOrder_of_ofServerDocument h
  obtain ⟨listed, hlisted, h⟩ := exists_of_bind_eq_ok h
  obtain ⟨entries, hentries, h⟩ := exists_of_bind_eq_ok h
  obtain ⟨shares, hshares, hmerges⟩ : ∃ shares,
      List.Forall₂ (fun member s => Share.Reads member s) (serverMembers doc) shares ∧
        Merges listed shares racks := by
    rw [serverMembers, ← Field.mapping_eq_ok hentries]
    cases entries with
    | none =>
      cases h
      exact ⟨[], .nil, .refl _⟩
    | some entries => exact exists_merges (.refl listed) h
  exact ⟨listed, shares, hlisted, hshares, hmerges.merged hnumbered hshares⟩

/-- Racks of one name, entries of every shape, and servers without a name. -/
def scattered : Mapping :=
  [("racks", .list [
      .mapping [("id", .text "r"), ("label", .text "R"), ("devices", .list [.text "x"])],
      .text "r"]),
    ("rack_servers", .mapping [
      ("r", .list [.mapping [], .text "s"]),
      ("q", .mapping [("label", .text "Q"), ("servers", .list [.mapping []])]),
      ("z", .null)])]

theorem merged_scattered : ∃ racks, ofServerDocument scattered = .ok racks ∧
    racks.map (fun r => (r.id, r.label, r.devices.map (·.id))) =
      [("r", "R", ["x", "r_2", "s"]), ("r", "r", []), ("q", "Q", ["q_1"]), ("z", "z", [])] ∧
    ∃ listed shares, ofDocument scattered = .ok listed ∧
      List.Forall₂ (fun member s => Share.Reads member s) (serverMembers scattered) shares ∧
      Merged listed shares racks := by
  have hresult : ((ofServerDocument scattered).toOption.map fun racks =>
      racks.map fun r => (r.id, r.label, r.devices.map (·.id))) =
      some [("r", "R", ["x", "r_2", "s"]), ("r", "r", []), ("q", "Q", ["q_1"]),
        ("z", "z", [])] := by
    decide +kernel
  obtain ⟨racks, hracks, hshown⟩ := exists_of_toOption_map hresult
  exact ⟨racks, hracks, hshown, merged_of_ofServerDocument hracks⟩

end Rack

end InfraDiagram

import InfraDiagram.Proofs.ErrorPaths
import InfraDiagram.Proofs.Reorderings
import InfraDiagram.Proofs.RevisedDocuments

/-!
# The order of keys

Documents that are equal up to the order of members at any depth are of the same kind, and are drawn
in the same way or refused with the same error. Two orders matter: servers that are listed by rack
are drawn in the order of the racks, and the warning about an unknown document lists its keys.

## Main definitions

- `Value.keys?` — the keys of a mapping in their order

## Main statements

- `Plan.alike_of_shuffled` — shuffled documents have the same plan
- `generate_eq_of_reordered` — reordered documents have the same result
-/

namespace InfraDiagram

open Dot Connection

variable {m m' : Mapping}

/-- The keys of a mapping in their order. -/
def Value.keys? (v : Value) : Option (List String) :=
  v.mapping?.map Mapping.keys

/-- Reordered mappings whose own members stay in order are so member by member. -/
theorem Value.Reordered.memberwise (h : Reordered (.mapping m) (.mapping m'))
    (horder : m.keys = m'.keys) : m.Memberwise (fun _ => Reordered) m' := by
  cases h with
  | same => exact .refl (fun _ => .same) m
  | @mapping _ n _ hkeys h hperm =>
    have hmemberwise := h.memberwise
    have hsame : n = m' := by
      refine Mapping.eq_of_perm ?_ hperm (hmemberwise.keys_eq.symm.trans horder)
      rw [Mapping.DistinctKeys, ← hmemberwise.keys_eq]
      exact hkeys
    exact hsame ▸ hmemberwise

-- ════════════════════════════════════════════════════════════════════════
-- Parts of documents
-- ════════════════════════════════════════════════════════════════════════

theorem Site.ofDocument_shuffled (h : m.Shuffled m') : ofDocument m = ofDocument m' :=
  ((h.agree_list "sites" .root).bind fun _ _ hitems =>
    Agree.mapM_zipIdx_eq hitems fun _ _ _ hv =>
      Tolerance.exact.agree_of_eq (ofValue_reordered hv _ _)).eq

theorem Site.header_shuffled (h : m.Shuffled m') : header m = header m' := by
  unfold header
  obtain ⟨hv, hv'⟩ | ⟨v, v', hv, hv', hrel⟩ := rel_cases (h "site")
  · rw [hv, hv']
  · rw [hv, hv']
    have hsame := ofValue_reordered hrel "site" (Path.root.key "site")
    obtain rfl | ⟨xs, ys, rfl, rfl, -⟩ | ⟨n, n', rfl, rfl, -⟩ := hrel.cases
    · rfl
    · rfl
    · exact congrArg (Except.map some) hsame

theorem Rack.ofDocument_shuffled (h : m.Shuffled m') : ofDocument m = ofDocument m' := by
  refine ((h.agree_oneOrMany .root "rack" "racks").bind fun es es' hes =>
    Agree.mapM_zipIdx_eq hes ?_).eq
  rintro ⟨v, path⟩ ⟨v', path'⟩ i ⟨hv, hpath⟩
  obtain rfl : path = path' := hpath
  exact Tolerance.exact.agree_of_eq (ofValue_reordered hv i path)

/-- The racks of servers that are listed by rack, if the racks stay in order. -/
theorem Rack.ofServerDocument_shuffled (h : m.Shuffled m')
    (horder : (m.get? "rack_servers").bind Value.keys? =
      (m'.get? "rack_servers").bind Value.keys?) :
    ofServerDocument m = ofServerDocument m' := by
  unfold ofServerDocument
  rw [ofDocument_shuffled h]
  cases ofDocument m' with
  | error e => rfl
  | ok racks =>
    obtain ⟨hv, hv'⟩ | ⟨v, v', hv, hv', hrel⟩ := rel_cases (h "rack_servers")
    · rw [hv, hv']
    · rw [hv, hv'] at horder ⊢
      have hentries := hrel
      obtain rfl | ⟨xs, ys, rfl, rfl, -⟩ | ⟨n, n', rfl, rfl, -⟩ := hrel.cases
      · rfl
      · rfl
      · have hmemberwise := hentries.memberwise (Option.some.inj horder)
        refine (Agree.foldlM hmemberwise ?_ racks).eq
        rintro racks ⟨id, v⟩ ⟨id', v'⟩ ⟨hid, hv⟩
        obtain rfl : id = id' := hid
        exact Tolerance.exact.agree_of_eq (mountEntry_reordered hv racks)

theorem CableCatalog.shuffled_empty : empty.Shuffled empty :=
  .none

theorem CableCatalog.shuffled_ofDocument (h : m.Shuffled m') :
    (ofDocument m).Shuffled (ofDocument m') := by
  unfold CableCatalog.Shuffled ofDocument
  obtain ⟨hv, hv'⟩ | ⟨v, v', hv, hv', hrel⟩ := rel_cases (h "cable_types")
  · rw [hv, hv']
    exact .none
  · rw [hv, hv']
    obtain rfl | ⟨xs, ys, rfl, rfl, -⟩ | ⟨n, n', rfl, rfl, hn⟩ := hrel.cases
    · exact rel_of_eq .same rfl
    · exact .none
    · exact .some hn

namespace Connection

theorem agree_records (h : m.Shuffled m') {catalog catalog' : CableCatalog}
    (hcatalog : catalog.Shuffled catalog') (key : String) (category : Category) (path : Path) :
    Agree Eq
      (fun rs rs' => ∀ path, decodeList rs category path catalog =
        decodeList rs' category path catalog')
      (Field.list m key path) (Field.list m' key path) :=
  (h.agree_list key path).mono fun _ _ hrecords path =>
    decodeList_reordered hcatalog hrecords category path

theorem ofEquipment_shuffled (h : m.Shuffled m') :
    ofEquipment m (.ofDocument m) = ofEquipment m' (.ofDocument m') := by
  have hcatalog := CableCatalog.shuffled_ofDocument h
  refine ((Agree.mapM_same (S := Eq) fun list _ => ?_).bind fun ds ds' hds => ?_).eq
  · exact (agree_records h hcatalog list.1 list.2 .root).bind fun rs rs' hrs => .ok (hrs _)
  · rw [List.forall₂_eq_eq_eq] at hds
    rw [hds]
    exact .ok rfl

end Connection

-- ════════════════════════════════════════════════════════════════════════
-- Plans
-- ════════════════════════════════════════════════════════════════════════

namespace Plan

variable (options : RenderOptions)

theorem alike_sites_shuffled (h : m.Shuffled m') : (sites m).Alike Eq (sites m') := by
  refine alike_ofScene (Agree.bind_same (fun _ => rfl) (Site.ofDocument_shuffled h) fun sites =>
    (agree_records h CableCatalog.shuffled_empty "connections" .site .root).bind
      fun rs rs' hrs => ?_)
  rw [hrs]
  exact .ok rfl

theorem alike_serverDetails_shuffled (h : m.Shuffled m') :
    (serverDetails m options).Alike Eq (serverDetails m' options) := by
  refine alike_serverDetails (h.agree_oneOrMany .root "server" "servers")
    (fun es es' hes => Agree.mapM_zipIdx_eq hes ?_)
    (Tolerance.exact.agree_of_eq (Device.listIn_shuffled h _ _ _ _))
    (Tolerance.exact.agree_of_eq (ofEquipment_shuffled h))
  rintro ⟨v, path⟩ ⟨v', path'⟩ i ⟨hv, hpath⟩
  obtain rfl : path = path' := hpath
  exact Tolerance.exact.agree_of_eq (Device.ofValue_reordered hv "server" i path "server")

theorem agree_topologyScene_shuffled (h : m.Shuffled m') {topology topology' : Mapping}
    (htopology : topology.Shuffled topology') :
    Agree Eq Eq (topologyScene m topology) (topologyScene m' topology') := by
  refine Agree.bind_same (fun _ => rfl) (Device.listIn_shuffled htopology _ _ _ _) fun devices =>
    (htopology.agree_listAlias ["connections", "links"] (Path.root.key "topology")).bind ?_
  rintro ⟨inner, path⟩ ⟨inner', path'⟩ ⟨hinner, hpath⟩
  obtain rfl : path = path' := hpath
  refine (agree_records h CableCatalog.shuffled_empty "connections" .link .root).bind
    fun outer outer' houter => ?_
  dsimp only
  rw [houter, decodeList_reordered CableCatalog.shuffled_empty hinner]
  exact .ok rfl

theorem alike_topology_shuffled (h : m.Shuffled m') : (topology m).Alike Eq (topology m') := by
  obtain ⟨hcomments, hscene⟩ := agree_topology
    (h.agree_mapping "topology" (Path.root.key "topology")) rfl
    (fun _ _ htopology => htopology.text_eq "name")
    fun _ _ htopology => agree_topologyScene_shuffled h htopology
  exact ⟨hcomments, hscene⟩

theorem alike_device_shuffled (h : m.Shuffled m') :
    (device m options).Alike Eq (device m' options) := by
  refine alike_device (h "device") (fun _ _ hrel => hrel.isNull_eq) (fun v v' hrel => ?_)
    (agree_records h CableCatalog.shuffled_empty "connections" .link .root)
  exact Tolerance.exact.agree_of_eq (Device.ofValue_reordered hrel "device" 0 _ "device")

theorem alike_links_shuffled (h : m.Shuffled m') : (links m).Alike Eq (links m') := by
  refine alike_ofScene ((agree_records h CableCatalog.shuffled_empty "links" .link .root).bind
    fun rs rs' hrs => Agree.bind_same (fun _ => rfl) (Device.listIn_shuffled h _ _ _ _)
      fun known => ?_)
  dsimp only
  rw [hrs]
  exact .ok rfl

theorem agree_intentScene_shuffled (h : m.Shuffled m') :
    Agree Eq Eq (intentScene m) (intentScene m') := by
  refine Agree.bind_same (fun _ => rfl) (Device.listIn_shuffled h _ _ _ _) fun devices =>
    (h.agree_listAlias ["flows", "paths"] (Path.root.key "intent")).bind ?_
  rintro ⟨flows, path⟩ ⟨flows', path'⟩ ⟨hflows, hpath⟩
  obtain rfl : path = path' := hpath
  refine (h.agree_listAlias ["goals", "requirements"] (Path.root.key "intent")).bind ?_
  rintro ⟨goals, _⟩ ⟨goals', _⟩ ⟨hgoals, -⟩
  -- only goals that are texts are shown
  have htexts : goals.filterMap Value.text? = goals'.filterMap Value.text? := by
    dsimp only at hgoals
    induction hgoals with
    | nil => rfl
    | cons hv _ ih =>
      have hfirst := hv.scalar_eq (f := Value.text?) (fun _ _ => rfl) fun _ _ => rfl
      rw [List.filterMap_cons, List.filterMap_cons, hfirst, ih]
  dsimp only
  rw [decodeList_reordered CableCatalog.shuffled_empty hflows]
  refine .ok ?_
  simp only [intentNote, htexts, h.firstText_eq, h.text_eq]

theorem alike_intent_shuffled (h : m.Shuffled m') : (intent m).Alike Eq (intent m') := by
  refine alike_ofScene ((h.agree_mapping "intent" (Path.root.key "intent")).bind
    fun o o' hrel => ?_)
  cases hrel with
  | none => exact .ok rfl
  | some hintent => exact agree_intentScene_shuffled hintent

/-- Shuffled documents have the same plan, if the orders that matter are the same. -/
theorem alike_of_shuffled {kind : Kind} (h : m.Shuffled m')
    (hracks : kind = .rackServers → (m.get? "rack_servers").bind Value.keys? =
      (m'.get? "rack_servers").bind Value.keys?)
    (hkeys : kind = .unknown → m.keys = m'.keys) :
    (ofKind kind m options).Alike Eq (ofKind kind m' options) := by
  have hcabling := Tolerance.exact.agree_of_eq (ofEquipment_shuffled h)
  cases kind with
  | siteTopology => exact alike_sites_shuffled h
  | siteEquipment =>
    exact alike_siteEquipment (Tolerance.exact.agree_of_eq (Rack.ofDocument_shuffled h))
      (Tolerance.exact.agree_of_eq (Site.header_shuffled h)) hcabling
  | rackServers =>
    exact alike_rackServers
      (Tolerance.exact.agree_of_eq (Rack.ofServerDocument_shuffled h (hracks rfl))) hcabling
  | serverDetails => exact alike_serverDetails_shuffled options h
  | topology => exact alike_topology_shuffled h
  | device => exact alike_device_shuffled options h
  | links => exact alike_links_shuffled h
  | intent => exact alike_intent_shuffled h
  | unknown =>
    -- the warning lists the keys of the document
    simp only [ofKind, unknown, hkeys rfl]
    exact ⟨rfl, .ok rfl⟩

end Plan

-- ════════════════════════════════════════════════════════════════════════
-- Results
-- ════════════════════════════════════════════════════════════════════════

/-- **The order of keys does not matter** but where it is drawn. Documents that are equal up to the
    order of members at any depth are of the same kind, and have the same result or are refused
    with the same error, if the racks of servers that are listed by rack and the keys of an unknown
    document are in the same order in both. -/
theorem generate_eq_of_reordered {d d' : Value} (h : d.Reordered d')
    (hracks : classify d = .rackServers →
      (d.follow? [.key "rack_servers"]).bind Value.keys? =
        (d'.follow? [.key "rack_servers"]).bind Value.keys?)
    (hkeys : classify d = .unknown → d.keys? = d'.keys?) (options : RenderOptions) :
    classify d = classify d' ∧ generate d options = generate d' options := by
  obtain rfl | ⟨xs, ys, rfl, rfl, -⟩ | ⟨m, m', rfl, rfl, hm⟩ := h.cases
  · exact ⟨rfl, rfl⟩
  · exact ⟨rfl, rfl⟩
  · have hkind : classifyMapping m = classifyMapping m' := hm.classify_eq
    have hfollow : ∀ m : Mapping, (Value.mapping m).follow? [.key "rack_servers"] =
        m.get? "rack_servers" := fun m => (Value.follow?_cons ..).trans (Option.bind_fun_some _)
    rw [hfollow, hfollow] at hracks
    refine ⟨hkind, (Plan.Alike.agree_generate hkind ?_).eq⟩
    exact Plan.alike_of_shuffled options hm hracks fun hunknown =>
      Option.some.inj (hkeys hunknown)

/-- Two racks of servers with the cable between them: a list of servers, a mapping with the given
    members, and a record with the given members. -/
def cabledRacks (rack record : Mapping) : Mapping :=
  [("rack_servers", .mapping [("r1", .list [.text "a"]), ("r2", .mapping rack)]),
    ("data_connections", .list [.mapping record])]

theorem reordered_cabledRacks {rack rack' record record' : Mapping}
    (hrackKeys : rack.DistinctKeys) (hrack : rack.Perm rack') (hrecordKeys : record.DistinctKeys)
    (hrecord : record.Perm record') :
    (Value.mapping (cabledRacks rack record)).Reordered
      (.mapping (cabledRacks rack' record').reverse) := by
  have hmember : ∀ m : Mapping, Value.MembersReordered m m := by
    intro m
    induction m with
    | nil => exact .nil
    | cons member m ih => exact .cons (.same _) ih
  have hr : (Value.mapping rack).Reordered (.mapping rack') :=
    .mapping hrackKeys (hmember rack) hrack
  have hc : (Value.mapping record).Reordered (.mapping record') :=
    .mapping hrecordKeys (hmember record) hrecord
  have hracks : (["r1", "r2"] : List String).Nodup := by decide
  have hmarkers : (["rack_servers", "data_connections"] : List String).Nodup := by decide
  exact .mapping hmarkers
    (.cons (.mapping hracks (.cons (.same _) (.cons hr .nil)) (.refl _))
      (.cons (.list (.cons hc .nil)) .nil)) (List.reverse_perm _).symm

theorem generate_eq_cabledRacks :
    let rack : Mapping := [("label", .text "Rack 2"), ("servers", .list [.text "b"])]
    let record : Mapping := [("from", .text "a"), ("to", .text "b"), ("speed", .text "10G")]
    ∃ g, generate (.mapping (cabledRacks rack record)) .standard = .ok g ∧
      generate (.mapping (cabledRacks rack.reverse record.reverse).reverse) .standard = .ok g ∧
      g.kind = .rackServers ∧
      g.diagram.graph.edges.map (fun e => (e.source, e.target)) = [("a", "b")] := by
  intro rack record
  have hshown : ((generate (.mapping (cabledRacks rack record)) .standard).toOption.map fun g =>
      (g.kind, g.diagram.graph.edges.map fun e => (e.source, e.target))) =
      some (.rackServers, [("a", "b")]) := by
    decide +kernel
  obtain ⟨g, hg, hshown⟩ := exists_of_toOption_map hshown
  have hrackKeys : rack.keys.Nodup := by decide
  have hrecordKeys : record.keys.Nodup := by decide
  have hsame := generate_eq_of_reordered
    (reordered_cabledRacks hrackKeys (List.reverse_perm rack).symm hrecordKeys
      (List.reverse_perm record).symm) (fun _ => rfl) (fun hunknown => nomatch hunknown) .standard
  exact ⟨g, hg, hsame.2 ▸ hg, (Prod.mk.inj hshown).1, (Prod.mk.inj hshown).2⟩

end InfraDiagram

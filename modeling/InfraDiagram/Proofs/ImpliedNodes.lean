import InfraDiagram.Proofs.Addressing
import InfraDiagram.Proofs.DeclaredEnds
import InfraDiagram.Proofs.RackLayout

/-!
# Links draw what they name

A list of links declares a node for every key that its tokens imply, each once and in the order in
which they first appear. Connections look their ends up again once the nodes are drawn, and find
the node of the implied key. So every link whose tokens name something is drawn.

## Main definitions

- `impliedKey?` — the key of the node that a token stands for
- `Endpoint.StandsAt` — an end that is attached to the node of its implied key
- `DrawsLinks` — a result that draws every link

## Main statements

- `map_key_impliedNodes` — the implied nodes are those of the implied keys
- `Course.exists_implied` — the groundwork of a list of links shows what its tokens imply
- `drawsLinks_of_generate` — every result for a list of links draws every link
-/

namespace InfraDiagram

open Dot

-- ════════════════════════════════════════════════════════════════════════
-- Implied keys
-- ════════════════════════════════════════════════════════════════════════

/-- The key of the node that a token stands for: the id of a listed device with that id, else the
    id of the first listed device of that type, else the token itself without white space around
    it. A placeholder stands for none. -/
def impliedKey? (listed : List Device) (token : String) : Option String :=
  if isPlaceholder token then none
  else if ∃ d ∈ listed, d.id = Text.trim token then some (Text.trim token)
  else ((listed.find? fun d => d.type == Text.trim token).map (·.id)).or (some (Text.trim token))

/-- How a token comes to stand for a key. -/
theorem impliedKey?_cases {listed : List Device} {token key : String}
    (h : impliedKey? listed token = some key) :
    isPlaceholder token = false ∧
      ((key = Text.trim token ∧ ((∃ d ∈ listed, d.id = Text.trim token) ∨
          listed.find? (fun d => d.type == Text.trim token) = none)) ∨
        ((∀ d ∈ listed, d.id ≠ Text.trim token) ∧
          ∃ d, listed.find? (fun d => d.type == Text.trim token) = some d ∧ key = d.id)) := by
  unfold impliedKey? at h
  split_ifs at h with hplaceholder hid
  · exact ⟨by simpa using hplaceholder, .inl ⟨(Option.some.inj h).symm, .inl hid⟩⟩
  · refine ⟨by simpa using hplaceholder, ?_⟩
    cases hfirst : listed.find? (fun d => d.type == Text.trim token) with
    | none =>
      rw [hfirst] at h
      exact .inl ⟨(Option.some.inj h).symm, .inr rfl⟩
    | some d =>
      rw [hfirst] at h
      exact .inr ⟨fun d hd heq => hid ⟨d, hd, heq⟩, d, rfl, (Option.some.inj h).symm⟩

theorem impliedKey?_eq_none_iff {listed : List Device} {token : String} :
    impliedKey? listed token = none ↔ isPlaceholder token = true := by
  unfold impliedKey?
  split_ifs with hplaceholder hid
  · simp [hplaceholder]
  · simp [hplaceholder]
  · cases listed.find? (fun d => d.type == Text.trim token) <;> simp [hplaceholder]

/-- The node that is drawn for a token has its implied key. -/
theorem map_key_implied? (listed : List Device) (token : String) :
    (implied? listed token).map (·.key) = impliedKey? listed token := by
  by_cases hplaceholder : isPlaceholder token = true
  · have htrim : isPlaceholder (Text.trim token) = true := by
      rw [isPlaceholder, Text.trim_trim]
      exact hplaceholder
    simp [implied?, impliedKey?, hplaceholder, htrim]
  · rw [Bool.not_eq_true] at hplaceholder
    rw [implied?_eq hplaceholder, impliedKey?, hplaceholder, if_neg Bool.false_ne_true,
      knownDevice?]
    cases hid : listed.reverse.find? fun d => d.id == Text.trim token with
    | some d =>
      have hd : d.id = Text.trim token := by simpa using List.find?_some hid
      have hmem : d ∈ listed := List.mem_reverse.1 (List.mem_of_find?_eq_some hid)
      rw [if_pos ⟨d, hmem, hd⟩]
      exact congrArg some hd
    | none =>
      have hnone : ¬ ∃ d ∈ listed, d.id = Text.trim token := by
        rintro ⟨d, hd, heq⟩
        exact List.find?_eq_none.1 hid d (List.mem_reverse.2 hd) (by simp [heq])
      rw [if_neg hnone, Option.none_or]
      cases listed.find? fun d => d.type == Text.trim token <;> rfl

/-- Nodes are added in the order of their keys' first appearance. -/
theorem map_key_foldl_addImplied (ns nodes : List Implied) :
    (ns.foldl addImplied nodes).map (·.key) = nodes.map (·.key) ++
      ((ns.map (·.key)).filter fun key => !(nodes.map (·.key)).contains key).eraseDups := by
  induction ns generalizing nodes with
  | nil => simp
  | cons n ns ih =>
    rw [List.foldl_cons, ih, addImplied, List.map_cons, List.filter_cons]
    by_cases hany : (nodes.map (·.key)).contains n.key = true
    · have hsome : (nodes.any fun m => m.key == n.key) = true := by simpa using hany
      rw [if_pos hsome, if_neg (by simpa using hany)]
    · have hnone : ¬ (nodes.any fun m => m.key == n.key) = true := by simpa using hany
      -- what is left out later has appeared already, or is the new key itself
      have hleft : ∀ key : String, (!((nodes ++ [n]).map (·.key)).contains key) =
          (!key == n.key && !(nodes.map (·.key)).contains key) := by
        intro key
        rw [Bool.eq_iff_iff]
        simp [and_comm]
      rw [if_neg hnone, if_pos (by simpa using hany), List.eraseDups_cons, List.filter_filter,
        List.filter_congr fun key _ => hleft key, List.map_append, List.append_assoc]
      rfl

theorem map_key_impliedNodes (listed : List Device) (links : List Connection) :
    (impliedNodes listed links).map (·.key) =
      ((links.flatMap fun l => [l.source.device, l.target.device]).filterMap
        (impliedKey? listed)).eraseDups := by
  have hkeys : ∀ tokens : List String, (tokens.filterMap (implied? listed)).map (·.key) =
      tokens.filterMap (impliedKey? listed) := by
    intro tokens
    rw [List.map_filterMap]
    exact List.filterMap_congr fun token _ => map_key_implied? listed token
  rw [impliedNodes, map_key_foldl_addImplied, hkeys]
  simp

-- ════════════════════════════════════════════════════════════════════════
-- Canvases that show what tokens imply
-- ════════════════════════════════════════════════════════════════════════

/-- Declarations with different keys that are new to the map get their own keys. -/
theorem entries_enterAll_perm {m : NodeMap} {calls : List Call}
    (h : (m.keys ++ calls.map fun call => call.1.key).Nodup) :
    (enterAll m calls).entries.Perm
      (m.entries ++ calls.map fun call => (call.1.key, Canvas.refOf call.1 call.2)) := by
  induction calls generalizing m with
  | nil => exact .of_eq (List.append_nil _).symm
  | cons call calls ih =>
    have hnew : call.1.key ∉ m.keys := by
      intro hmem
      exact (List.nodup_append.1 h).2.2 _ hmem _ (by simp) rfl
    have hentered := Canvas.enter_cases m call.1.key (Canvas.refOf call.1 call.2)
    have hfound : ∀ ref, m.find? call.1.key ≠ some ref := fun ref href =>
      hnew (List.mem_map_of_mem (NodeMap.mem_of_find?_eq_some href))
    cases hentered with
    | displacing hfind => exact absurd hfind (hfound _)
    | numbered hfind => exact absurd hfind (hfound _)
    | free _ hperm =>
      have hkeys : ((Canvas.enter m call.1.key (Canvas.refOf call.1 call.2)).keys ++
          calls.map fun call => call.1.key).Nodup := by
        refine (((hperm.map Prod.fst).append_right _).nodup_iff.2 ?_)
        exact List.perm_middle.nodup_iff.1 h
      refine (ih hkeys).trans ((hperm.append_right _).trans ?_)
      exact List.perm_middle.symm

/-- A canvas whose nodes are those that tokens imply among listed devices, and on which both
    look-ups find the node of a key. -/
structure Canvas.ShowsImplied (c : Canvas) (listed : List Device) (tokens : List String) :
    Prop where
  keys : c.graph.nodes.map (·.key) = (tokens.filterMap (impliedKey? listed)).eraseDups
  clusters : c.graph.clusters = []
  scopes : c.scopes = []
  lookupDevice : ∀ key id,
    c.lookupDevice key = some id ↔ ∃ n ∈ c.graph.nodes, n.key = key ∧ n.id = id
  lookup : ∀ key id, c.lookup key = some id ↔ ∃ n ∈ c.graph.nodes, n.key = key ∧ n.id = id

namespace Canvas.ShowsImplied

variable {c : Canvas} {listed : List Device} {tokens : List String}

theorem mem_keys_iff (h : c.ShowsImplied listed tokens) {key : String} :
    (∃ n ∈ c.graph.nodes, n.key = key) ↔
      ∃ token ∈ tokens, impliedKey? listed token = some key := by
  have hmem : key ∈ c.graph.nodes.map (·.key) ↔ key ∈ tokens.filterMap (impliedKey? listed) := by
    rw [h.keys, List.mem_eraseDups]
  rwa [List.mem_map, List.mem_filterMap] at hmem

/-- A key that no token implies is unknown. -/
theorem unknown (h : c.ShowsImplied listed tokens) {key : String}
    (hkey : ∀ token ∈ tokens, impliedKey? listed token ≠ some key) :
    c.lookupDevice key = none ∧ c.lookup key = none := by
  have hnone : ¬ ∃ n ∈ c.graph.nodes, n.key = key := fun hnode => by
    obtain ⟨token, htoken, heq⟩ := h.mem_keys_iff.1 hnode
    exact hkey token htoken heq
  constructor
  · refine Option.eq_none_iff_forall_ne_some.2 fun id hid => hnone ?_
    obtain ⟨n, hn, hkey, -⟩ := (h.lookupDevice key id).1 hid
    exact ⟨n, hn, hkey⟩
  · refine Option.eq_none_iff_forall_ne_some.2 fun id hid => hnone ?_
    obtain ⟨n, hn, hkey, -⟩ := (h.lookup key id).1 hid
    exact ⟨n, hn, hkey⟩

/-- A token is resolved to the node of the key that it implies. -/
theorem resolve (h : c.ShowsImplied listed tokens) {token key : String} (htoken : token ∈ tokens)
    (hkey : impliedKey? listed token = some key) :
    ∃ n ∈ c.graph.nodes, n.key = key ∧
      (Resolver.ofDevices listed).resolve token c = .ok ⟨n.id, key⟩ := by
  obtain ⟨n, hn, hnkey⟩ := h.mem_keys_iff.2 ⟨token, htoken, hkey⟩
  have hlookup : c.lookupDevice key = some n.id := (h.lookupDevice key n.id).2 ⟨n, hn, hnkey, rfl⟩
  refine ⟨n, hn, hnkey, ?_⟩
  obtain ⟨hreal, ⟨rfl, -⟩ | ⟨hid, d, hfirst, rfl⟩⟩ := impliedKey?_cases hkey
  · exact Resolver.resolve_of_lookupDevice hreal hlookup
  · -- the token itself is no key, or the device of this type would have been passed over
    have hunknown : ∀ other ∈ tokens, impliedKey? listed other ≠ some (Text.trim token) := by
      intro other _ hother
      obtain ⟨-, ⟨heq, hown | hnone⟩ | ⟨-, d', hfirst', heq⟩⟩ := impliedKey?_cases hother
      · obtain ⟨d', hd', hid'⟩ := hown
        exact hid d' hd' (hid'.trans heq.symm)
      · rw [← heq, hfirst] at hnone
        cases hnone
      · exact hid d' (List.mem_of_find?_eq_some hfirst') heq.symm
    obtain ⟨hdevice, hnode⟩ := h.unknown hunknown
    exact Resolver.resolve_ofDevices_of_type hreal hdevice hnode hfirst hlookup

end Canvas.ShowsImplied

/-- Without clusters, all nodes stand at top level. -/
theorem Canvas.allNodes_of_bare {c : Canvas} (hscopes : c.scopes = [])
    (hclusters : c.graph.clusters = []) : c.allNodes = c.graph.nodes := by
  simp [allNodes, Graph.allNodes, hscopes, hclusters, Cluster.allNodesOf]

namespace Canvas.Accounts

variable {c : Canvas} {calls : List Call}

/-- Without clusters, the declarations are those of the nodes at top level. -/
theorem exists_node_iff (h : c.Accounts calls) (hscopes : c.scopes = [])
    (hclusters : c.graph.clusters = []) {key id : String} :
    (∃ n ∈ c.graph.nodes, n.key = key ∧ n.id = id) ↔
      ∃ call ∈ calls, call.1.key = key ∧ call.2 = id := by
  have hmem := h.nodes.mem_iff (a := (key, id))
  rw [allNodes_of_bare hscopes hclusters] at hmem
  simpa only [List.mem_map, Prod.mk.injEq] using hmem

/-- If no two declarations have one key, the node map has each of them at its own key. -/
theorem lookup_eq_some_iff (h : c.Accounts calls) (hmap : c.nodeMap = enterAll .empty calls)
    (hkeys : (calls.map fun call => call.1.key).Nodup) {key id : String} :
    c.lookup key = some id ↔ ∃ call ∈ calls, call.1.key = key ∧ call.2 = id := by
  have hperm : c.nodeMap.entries.Perm
      (calls.map fun call => (call.1.key, refOf call.1 call.2)) :=
    hmap ▸ entries_enterAll_perm (m := .empty) hkeys
  rw [lookup, Option.map_eq_some_iff]
  constructor
  · rintro ⟨ref, href, rfl⟩
    obtain ⟨call, hcall, heq⟩ :=
      List.mem_map.1 (hperm.mem_iff.1 (NodeMap.mem_of_find?_eq_some href))
    obtain ⟨rfl, rfl⟩ := Prod.mk.inj heq
    exact ⟨call, hcall, rfl, rfl⟩
  · rintro ⟨call, hcall, rfl, rfl⟩
    refine ⟨refOf call.1 call.2, (NodeMap.find?_eq_some_iff h.keys).2 ?_, rfl⟩
    exact hperm.mem_iff.2 (List.mem_map.2 ⟨call, hcall, rfl⟩)

/-- If no two declarations have one key, the table of devices has each device. -/
theorem lookupDevice_eq_some_iff_of_nodup (h : c.Accounts calls)
    (hkeys : (calls.map fun call => call.1.key).Nodup) {key id : String} :
    c.lookupDevice key = some id ↔
      ∃ call ∈ calls, call.1.entity.isDevice = true ∧ call.1.key = key ∧ call.2 = id := by
  constructor
  · intro hid
    obtain ⟨call, hcall, hnode, hdevice, hkey⟩ := h.exists_call_of_lookupDevice hid
    exact ⟨call, hcall, hdevice, hkey, hnode⟩
  · rintro ⟨call, hcall, hdevice, rfl, rfl⟩
    rw [lookupDevice, h.devices, Option.map_eq_some_iff]
    obtain ⟨first, hfirst⟩ : ∃ first, calls.find? (fun other =>
        other.1.entity.isDevice && other.1.key == call.1.key) = some first := by
      rw [← Option.isSome_iff_exists, List.find?_isSome]
      exact ⟨call, hcall, by simp [hdevice]⟩
    have hkey := List.find?_some hfirst
    simp only [Bool.and_eq_true, beq_iff_eq] at hkey
    obtain rfl : first = call :=
      List.inj_on_of_nodup_map hkeys (List.mem_of_find?_eq_some hfirst) hcall hkey.2
    exact ⟨first, hfirst, rfl⟩

end Canvas.Accounts

/-- The tokens at the ends of connections, from each start to each end. -/
def tokensOf (conns : List Connection) : List String :=
  conns.flatMap fun conn => [conn.source.device, conn.target.device]

theorem lays_implied (ns : List Implied) :
    Lays [] (drawImplied ns) fun l _ => ∃ ids, l.Declares (ns.map Implied.declaration) ids := by
  have hone : ∀ n ∈ ns, Lays []
      (do
        let node ← declare n.declaration
        return (⟨n.declaration.key, node, []⟩ : Placement))
      fun l placed => l.Declares [n.declaration] [placed.node] := fun n _ =>
    (Lays.declare n.declaration).map fun l id hl => hl ▸ .single _ _
  exact (Lays.mapM hone).mono fun l placed h =>
    ⟨_, .of_stacks_singles h fun _ _ _ hdeclares => hdeclares⟩

/-- The nodes of a list of links stand at top level, and have the implied keys. -/
theorem implied_bare (listed : List Device) (conns : List Connection) {c : Canvas}
    (hc : (drawImplied (impliedNodes listed conns) .blank).2 = c) :
    c.scopes = [] ∧ c.graph.clusters = [] ∧
      c.graph.nodes.map (·.key) = ((tokensOf conns).filterMap (impliedKey? listed)).eraseDups := by
  obtain ⟨hscopes, layer, hlayer, ids, hdeclares⟩ :=
    (lays_implied (impliedNodes listed conns)).at_top (c := .blank) rfl
  rw [hc] at hscopes hlayer
  refine ⟨hscopes, (congrArg Layer.clusters hlayer).trans hdeclares.clusters, ?_⟩
  have hshown := congrArg (List.map Prod.fst) hdeclares.shown
  rw [List.map_map, List.map_map, List.map_map] at hshown
  rw [show c.graph.nodes = layer.nodes from congrArg Layer.nodes hlayer]
  refine hshown.trans (Eq.trans ?_ (map_key_impliedNodes listed conns))
  exact List.map_congr_left fun n hn => Implied.key_declaration (sound_of_mem_impliedNodes hn)

/-- A canvas has what tokens imply if its nodes have the implied keys and are devices. -/
theorem Canvas.Accounts.showsImplied {c : Canvas} {calls : List Call} {listed : List Device}
    {tokens : List String} (h : c.Accounts calls) (hmap : c.nodeMap = enterAll .empty calls)
    (hscopes : c.scopes = []) (hclusters : c.graph.clusters = [])
    (hkeys : c.graph.nodes.map (·.key) = (tokens.filterMap (impliedKey? listed)).eraseDups)
    (hdevices : ∀ token ∈ tokens, ∀ key, impliedKey? listed token = some key →
      ∃ call ∈ calls, call.1.entity.isDevice = true ∧ call.1.key = key) :
    c.ShowsImplied listed tokens := by
  have hdistinct : (calls.map fun call => call.1.key).Nodup := by
    have hperm := h.nodes.map Prod.fst
    rw [Canvas.allNodes_of_bare hscopes hclusters, List.map_map, List.map_map] at hperm
    refine hperm.nodup_iff.1 ?_
    have hnodup := nodup_eraseDups (tokens.filterMap (impliedKey? listed))
    rwa [← hkeys] at hnodup
  have hmem : ∀ key id, (∃ n ∈ c.graph.nodes, n.key = key ∧ n.id = id) ↔
      ∃ call ∈ calls, call.1.key = key ∧ call.2 = id :=
    fun _ _ => h.exists_node_iff hscopes hclusters
  refine ⟨hkeys, hclusters, hscopes, fun key id => ?_, fun key id => ?_⟩
  · rw [hmem, h.lookupDevice_eq_some_iff_of_nodup hdistinct]
    constructor
    · rintro ⟨call, hcall, -, hrest⟩
      exact ⟨call, hcall, hrest⟩
    · rintro ⟨call, hcall, hkey, hid⟩
      -- the node was declared for a token, and so as a device
      obtain ⟨n, hn, hnkey, -⟩ := (hmem key id).2 ⟨call, hcall, hkey, hid⟩
      have hmemKeys : key ∈ c.graph.nodes.map (·.key) := hnkey ▸ List.mem_map_of_mem hn
      rw [hkeys, List.mem_eraseDups, List.mem_filterMap] at hmemKeys
      obtain ⟨token, htoken, himplied⟩ := hmemKeys
      obtain ⟨other, hother, hdevice, hotherKey⟩ := hdevices token htoken key himplied
      obtain rfl : other = call :=
        List.inj_on_of_nodup_map hdistinct hother hcall (hotherKey.trans hkey.symm)
      exact ⟨other, hother, hdevice, hkey, hid⟩
  · rw [hmem, h.lookup_eq_some_iff hmap hdistinct]

/-- The groundwork of a list of links shows what its tokens imply. -/
theorem Course.exists_implied {m : Mapping} {options : RenderOptions} {g : Generated}
    {w : Groundwork} {es : List Event} {l : Log} (h : Course m options g w es l)
    (hkind : g.kind = .links) :
    ∃ listed, Kind.links.listing m = .ok listed ∧ w.scene.resolver = .ofDevices listed ∧
      w.canvas.ShowsImplied listed (tokensOf w.connections) := by
  have hconnections := h.connections_links hkind
  obtain ⟨steps, listed, drawn, hrun, hresolver, hroster, himplied⟩ :=
    exists_roster (by rw [hkind]; decide) h.groundwork
  have hlisting := hroster.listing
  rw [hkind] at hlisting
  obtain ⟨hscene, hdrawn⟩ := Plan.groundwork_eq_ok h.groundwork
  rw [hkind] at hscene hdrawn
  have hnodes : w.scene.nodes = drawImplied (impliedNodes listed w.connections) := by
    rw [hconnections]
    obtain ⟨scene, places, canvas⟩ := w
    cases Stages.of_scene hscene with
    | links hrecords hknown => rw [Except.ok.inj (hknown.symm.trans hlisting)]
  obtain ⟨hscopes, hclusters, hkeys⟩ :=
    implied_bare listed w.connections (hnodes ▸ congrArg Prod.snd hdrawn)
  have haccounts : w.canvas.Accounts (logOf steps .blank).calls :=
    hrun ▸ Canvas.accounts_run steps
  refine ⟨listed, hlisting, hresolver,
    haccounts.showsImplied (hrun ▸ nodeMap_run steps _) hscopes hclusters hkeys ?_⟩
  intro token htoken key hkey
  rw [← map_key_implied?, Option.map_eq_some_iff] at hkey
  obtain ⟨implied, hsome, rfl⟩ := hkey
  obtain ⟨conn, hconn, htoken⟩ := List.mem_flatMap.1 htoken
  obtain ⟨e, he, rfl⟩ : ∃ e ∈ conn.endpoints, e.device = token := by
    simpa [Connection.endpoints, eq_comm] using htoken
  exact himplied hkind conn (hconnections ▸ hconn) e he implied hsome

-- ════════════════════════════════════════════════════════════════════════
-- Links
-- ════════════════════════════════════════════════════════════════════════

/-- The key of the node where an end is attached: that of its port if a node has it, else the key
    that its token implies. -/
def Endpoint.keyAmong (e : Endpoint) (keys : List String) (key : String) : String :=
  match e.port with
  | some port => if Port.key key port ∈ keys then Port.key key port else key
  | none => key

/-- The end is attached to the node of the key that its token implies. -/
def Endpoint.StandsAt (e : Endpoint) (listed : List Device) (nodes : List Node) (id : String) :
    Prop :=
  ∃ key, impliedKey? listed e.device = some key ∧
    ∃ n ∈ nodes, n.id = id ∧ n.key = e.keyAmong (nodes.map (·.key)) key

/-- An end whose token names something has a place, at the node of the implied key. -/
theorem Canvas.ShowsImplied.place {c : Canvas} {listed : List Device} {tokens : List String}
    (h : c.ShowsImplied listed tokens) {e : Endpoint} (htoken : e.device ∈ tokens)
    (hreal : isPlaceholder e.device = false) :
    ∃ a, e.place (.ofDevices listed) c = .ok a ∧ e.StandsAt listed c.graph.nodes a.id := by
  obtain ⟨key, hkey⟩ : ∃ key, impliedKey? listed e.device = some key := by
    rw [← Option.ne_none_iff_exists', ne_eq, impliedKey?_eq_none_iff, hreal]
    exact Bool.false_ne_true
  obtain ⟨n, hn, hnkey, hresolve⟩ := h.resolve htoken hkey
  unfold Endpoint.place Endpoint.StandsAt Endpoint.keyAmong
  rw [hresolve]
  cases hport : e.port with
  | none => exact ⟨_, rfl, key, hkey, n, hn, rfl, hnkey⟩
  | some port =>
    simp only [Except.map]
    cases hlookup : c.lookup (Port.key key port) with
    | some portId =>
      obtain ⟨n', hn', hportKey, hid⟩ := (h.lookup _ _).1 hlookup
      refine ⟨_, rfl, key, hkey, n', hn', hid, ?_⟩
      rw [if_pos (hportKey ▸ List.mem_map_of_mem hn'), hportKey]
    | none =>
      refine ⟨_, rfl, key, hkey, n, hn, rfl, ?_⟩
      rw [if_neg, hnkey]
      intro hmem
      obtain ⟨n', hn', hportKey⟩ := List.mem_map.1 hmem
      rw [(h.lookup _ n'.id).2 ⟨n', hn', hportKey, rfl⟩] at hlookup
      cases hlookup

theorem Endpoint.place_of_placeholder {e : Endpoint} (h : isPlaceholder e.device = true)
    (resolver : Resolver) (c : Canvas) : e.place resolver c = .error .placeholder := by
  rw [place, Resolver.resolve, if_pos h]
  rfl

namespace Connection

variable {conn : Connection}

theorem endpoints_subset_tokensOf {conns : List Connection} (h : conn ∈ conns) {e : Endpoint}
    (he : e ∈ conn.endpoints) : e.device ∈ tokensOf conns :=
  List.mem_flatMap.2 ⟨conn, h, List.mem_map_of_mem (f := Endpoint.device) he⟩

/-- A connection with a placeholder at an end is not drawn. -/
theorem edge?_of_placeholder {e : Endpoint} (he : e ∈ conn.endpoints)
    (h : isPlaceholder e.device = true) (resolver : Resolver) (c : Canvas) :
    conn.edge? resolver c = none := by
  have hplace := e.place_of_placeholder h resolver c
  simp only [endpoints, List.mem_cons, List.not_mem_nil, or_false] at he
  unfold edge?
  rcases he with rfl | rfl
  · rw [hplace]
  · rw [hplace]
    cases conn.source.place resolver c <;> rfl

end Connection

namespace Canvas.ShowsImplied

variable {c : Canvas} {listed : List Device} {conns : List Connection} {conn : Connection}

/-- A connection whose ends both name something is drawn between their nodes. -/
theorem exists_edge (h : c.ShowsImplied listed (tokensOf conns)) (hconn : conn ∈ conns)
    (hreal : ∀ e ∈ conn.endpoints, isPlaceholder e.device = false) :
    ∃ edge, conn.edge? (.ofDevices listed) c = some edge ∧
      conn.source.StandsAt listed c.graph.nodes edge.source ∧
      conn.target.StandsAt listed c.graph.nodes edge.target := by
  have hplace : ∀ e ∈ conn.endpoints, ∃ a, e.place (.ofDevices listed) c = .ok a ∧
      e.StandsAt listed c.graph.nodes a.id := fun e he =>
    h.place (Connection.endpoints_subset_tokensOf hconn he) (hreal e he)
  obtain ⟨source, hsource, hsourceAt⟩ := hplace conn.source (by simp [Connection.endpoints])
  obtain ⟨target, htarget, htargetAt⟩ := hplace conn.target (by simp [Connection.endpoints])
  refine ⟨⟨source.id, target.id, endLabels conn.edgeAttrs source target⟩, ?_, hsourceAt, htargetAt⟩
  simp only [Connection.edge?, hsource, htarget]

/-- Only placeholders are reported. -/
theorem placeholder_of_mem_problems (h : c.ShowsImplied listed (tokensOf conns))
    (hconn : conn ∈ conns) {token reason context : String}
    (hd : .unresolvedEndpoint token reason context ∈ conn.problems (.ofDevices listed) c) :
    isPlaceholder token = true := by
  have hend : ∀ e ∈ conn.endpoints, .unresolvedEndpoint token reason context ∈
      e.problems (.ofDevices listed) c conn.context → isPlaceholder token = true := by
    intro e he hd
    by_contra hreal
    rw [Bool.not_eq_true] at hreal
    unfold Endpoint.problems at hd
    split at hd
    · cases hd
    · rename_i hplace
      obtain ⟨rfl, -⟩ := Diagnostic.unresolvedEndpoint.inj (List.mem_singleton.1 hd)
      obtain ⟨a, ha, -⟩ := h.place (Connection.endpoints_subset_tokensOf hconn he) hreal
      rw [ha] at hplace
      cases hplace
  rcases List.mem_append.1 hd with hd | hd
  · exact hend conn.source (by simp [Connection.endpoints]) hd
  · exact hend conn.target (by simp [Connection.endpoints]) hd

end Canvas.ShowsImplied

/-- A record that is well-formed and whose tokens both name something. -/
def Record.isDrawable (r : Record) : Bool :=
  r.connection?.any fun conn =>
    !isPlaceholder conn.source.device && !isPlaceholder conn.target.device

theorem Record.isDrawable_iff {r : Record} : r.isDrawable = true ↔
    ∃ conn, r.connection? = some conn ∧ ∀ e ∈ conn.endpoints, isPlaceholder e.device = false := by
  unfold isDrawable
  cases r.connection? <;> simp [Connection.endpoints]

/-- A result for a list of links that draws every link: the nodes are those that the tokens of
    well-formed records imply, and the visible edges are those of the drawable records. -/
structure DrawsLinks (m : Mapping) (listed : List Device) (g : Generated) : Prop where
  /-- Each implied key has one node, in the order of first appearance. -/
  nodes : g.diagram.graph.nodes.map (·.key) =
    ((tokensOf ((recordsOf .links m).filterMap Record.connection?)).filterMap
      (impliedKey? listed)).eraseDups
  clusters : g.diagram.graph.clusters = []
  edges : List.Forall₂
    (fun r e => ∃ conn, r.connection? = some conn ∧
      conn.source.StandsAt listed g.diagram.graph.nodes e.source ∧
      conn.target.StandsAt listed g.diagram.graph.nodes e.target)
    ((recordsOf .links m).filter Record.isDrawable) g.diagram.graph.edges
  unresolved : ∀ token reason context,
    .unresolvedEndpoint token reason context ∈ g.diagnostics → isPlaceholder token = true
  dangling : ∀ source target, .danglingEdge source target ∉ g.diagnostics

/-- Items that are kept and come to something, one by one. -/
theorem forall₂_filterMap {α β : Type} {p : α → Bool} {f : α → Option β} {R : α → β → Prop}
    {xs : List α} (hkept : ∀ x ∈ xs, p x = true → ∃ y, f x = some y ∧ R x y)
    (hleft : ∀ x ∈ xs, p x = false → f x = none) :
    List.Forall₂ R (xs.filter p) (xs.filterMap f) := by
  induction xs with
  | nil => exact .nil
  | cons x xs ih =>
    rw [List.forall_mem_cons] at hkept hleft
    cases hp : p x with
    | true =>
      obtain ⟨y, hy, hR⟩ := hkept.1 hp
      rw [List.filter_cons_of_pos hp, List.filterMap_cons_some hy]
      exact .cons hR (ih hkept.2 hleft.2)
    | false =>
      rw [List.filter_cons_of_neg (by simp [hp]), List.filterMap_cons_none (hleft.1 hp)]
      exact ih hkept.2 hleft.2

/-- The drawable records are drawn, in order, and no others. -/
theorem Canvas.ShowsImplied.forall₂_edges {c : Canvas} {listed : List Device} {rs : List Record}
    (h : c.ShowsImplied listed (tokensOf (rs.filterMap Record.connection?))) :
    List.Forall₂
      (fun r e => ∃ conn, r.connection? = some conn ∧
        conn.source.StandsAt listed c.graph.nodes e.source ∧
        conn.target.StandsAt listed c.graph.nodes e.target)
      (rs.filter Record.isDrawable)
      (rs.filterMap fun r => r.connection?.bind (·.edge? (.ofDevices listed) c)) := by
  refine forall₂_filterMap (fun r hr hdrawable => ?_) fun r hr hnot => ?_
  · obtain ⟨conn, hconn, hreal⟩ := Record.isDrawable_iff.1 hdrawable
    obtain ⟨edge, hedge, hends⟩ := h.exists_edge (List.mem_filterMap.2 ⟨r, hr, hconn⟩) hreal
    exact ⟨edge, by rw [hconn]; exact hedge, conn, hconn, hends⟩
  · cases hconn : r.connection? with
    | none => rfl
    | some conn =>
      obtain ⟨e, he, hplaceholder⟩ : ∃ e ∈ conn.endpoints, isPlaceholder e.device = true := by
        by_contra hreal
        simp only [not_exists, not_and, Bool.not_eq_true] at hreal
        exact Bool.false_ne_true (hnot.symm.trans (Record.isDrawable_iff.2 ⟨conn, hconn, hreal⟩))
      exact conn.edge?_of_placeholder he hplaceholder _ _

/-- An end that is reported in a list of links is the end of a record. -/
theorem Course.exists_unresolved {m : Mapping} {options : RenderOptions} {g : Generated}
    {w : Groundwork} {es : List Event} {l : Log} (h : Course m options g w es l)
    (hkind : g.kind = .links) {token reason context : String}
    (hd : .unresolvedEndpoint token reason context ∈ g.diagnostics) :
    ∃ r ∈ recordsOf .links m, ∃ conn, r.connection? = some conn ∧
      .unresolvedEndpoint token reason context ∈ conn.problems w.scene.resolver w.canvas := by
  have hports := h.portLinks_eq_nil (by rw [hkind]; decide)
  rw [h.diagnostics, List.mem_append, h.problems_records, hports, hkind] at hd
  simp only [List.flatMap_nil, List.append_nil, List.mem_append, List.mem_flatMap] at hd
  rcases hd with hd | ⟨r, -, hd⟩ | ⟨r, hr, hd⟩
  · rcases h.diagnostics_canvas _ hd with ⟨_, _, _, heq⟩ | hwarning
    · cases heq
    · simp [hkind, Kind.warnings] at hwarning
  · obtain ⟨conn, hread, -⟩ | ⟨_, hread⟩ := r.connection_cases
    · simp [Record.faults, hread] at hd
    · simp [Record.faults, hread] at hd
  · obtain ⟨conn, hconn, hd⟩ := List.mem_flatMap.1 hd
    exact ⟨r, hr, conn, Option.mem_toList.1 hconn, hd⟩

theorem Course.drawsLinks {m : Mapping} {options : RenderOptions} {g : Generated}
    {w : Groundwork} {es : List Event} {l : Log} (h : Course m options g w es l)
    (hkind : g.kind = .links) :
    ∃ listed, Kind.links.listing m = .ok listed ∧ DrawsLinks m listed g := by
  obtain ⟨listed, hlisting, hresolver, hshows⟩ := h.exists_implied hkind
  have hports := h.portLinks_eq_nil (by rw [hkind]; decide)
  have hconnections : w.connections = (recordsOf .links m).filterMap Record.connection? := by
    rw [h.connections_links hkind, h.portrays.links, RecordList.decodedAll_eq, hkind]
    rfl
  rw [hconnections] at hshows
  have hdiagram := h.diagram_eq hshows.scopes
  have hedges : g.diagram.graph.edges = (recordsOf .links m).filterMap fun r =>
      r.connection?.bind (·.edge? (.ofDevices listed) w.canvas) := by
    rw [h.edges, h.edges_canvas, h.edges_records, hports, hkind, ← hresolver]
    simp [Kind.linksPorts, Groundwork.outcome]
  refine ⟨listed, hlisting, {
    nodes := by rw [hdiagram]; exact hshows.keys
    clusters := by rw [hdiagram]; exact hshows.clusters
    edges := ?_
    unresolved := fun token reason context hd => ?_
    dangling := h.not_dangling }⟩
  · rw [hedges, hdiagram]
    exact hshows.forall₂_edges
  · obtain ⟨r, hr, conn, hconn, hproblem⟩ := h.exists_unresolved hkind hd
    rw [hresolver] at hproblem
    exact hshows.placeholder_of_mem_problems (List.mem_filterMap.2 ⟨r, hr, hconn⟩) hproblem

/-- **Lists of links are drawn in full.** Whatever a list of links says, its result has one node for
    every key that its tokens imply, in the order of their first appearance; every well-formed
    record without a placeholder has its visible edge, in order, between the nodes of its ends; and
    no end is reported but placeholders. -/
theorem drawsLinks_of_generate {doc : Value} {options : RenderOptions} {g : Generated}
    (h : generate doc options = .ok g) (hkind : g.kind = .links) :
    ∃ m listed, doc = .mapping m ∧ Kind.links.listing m = .ok listed ∧ DrawsLinks m listed g := by
  obtain ⟨m, w, es, l, hm, hcourse⟩ := exists_course h
  obtain ⟨listed, hlisting, hdraws⟩ := hcourse.drawsLinks hkind
  exact ⟨m, listed, hm, hlisting, hdraws⟩

/-- Links whose tokens are types, ids, a placeholder and a name that is not listed; one id is the
    type of another device. -/
def crossed : Mapping :=
  [("links", .list [
      .mapping [("from", .text " core "), ("to", .text "leaf")],
      .mapping [("from", .text "undefined"), ("to", .text "lost")],
      .text "core-leaf",
      .mapping [("from", .text "spine"),
        ("to", .mapping [("device", .text "core"), ("port", .text "p")])],
      .mapping [("from", .text "core:p"), ("to", .text "other")]]),
    ("devices", .list [
      .mapping [("id", .text "leaf"), ("type", .text "core")],
      .mapping [("id", .text "x"), ("type", .text "spine")],
      .mapping [("id", .text "leaf"), ("type", .text "leaf")]])]

theorem drawsLinks_crossed : ∃ g, generate (.mapping crossed) .standard = .ok g ∧
    g.kind = .links ∧
    g.diagram.graph.nodes.map (fun n => (n.key, n.id)) = [("leaf", "leaf"), ("lost", "lost"),
      ("x", "x"), ("core:p", "\"core:p\""), ("other", "other")] ∧
    g.diagram.graph.edges.map (fun e => (e.source, e.target)) =
      [("leaf", "leaf"), ("x", "leaf"), ("\"core:p\"", "other")] ∧
    ∃ m listed, .mapping crossed = Value.mapping m ∧ Kind.links.listing m = .ok listed ∧
      DrawsLinks m listed g := by
  have hresult : ((generate (.mapping crossed) .standard).toOption.map fun g =>
      (g.kind, g.diagram.graph.nodes.map (fun n => (n.key, n.id)),
        g.diagram.graph.edges.map fun e => (e.source, e.target))) =
      some (.links, [("leaf", "leaf"), ("lost", "lost"), ("x", "x"), ("core:p", "\"core:p\""),
        ("other", "other")], [("leaf", "leaf"), ("x", "leaf"), ("\"core:p\"", "other")]) := by
    decide +kernel
  obtain ⟨g, hg, hshown⟩ := exists_of_toOption_map hresult
  simp only [Prod.mk.injEq] at hshown
  obtain ⟨hkind, hnodes, hedges⟩ := hshown
  exact ⟨g, hg, hkind, hnodes, hedges, drawsLinks_of_generate hg hkind⟩

end InfraDiagram

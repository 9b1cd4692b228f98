import InfraDiagram.Proofs.Addressing
import InfraDiagram.Proofs.Agreement
import InfraDiagram.Proofs.OrderingForest
import InfraDiagram.Proofs.Sketches

/-!
# Hiding ports

A document can be drawn without its ports. What is left is what the diagram with ports shows apart
from them: the same nodes in the same clusters, the same nodes on the common rank, and the same
lines for connections, as long as these name devices and not ports.

## Main definitions

- `Sketched` — the scenes of a document with and without ports
- `Generated.Depicts` — a result that a sketch describes, the entries of its node map included
- `Connection.AvoidsPorts` — a connection whose ends name devices or no node at all
- `Dot.Edge.SameLine` — edges that differ in the labels at their ends at most
- `HidesPorts` — results with and without ports

## Main statements

- `exists_sketched_of_scene` — the scenes of every document, with and without ports
- `Resolver.map_key_resolve_eq` — tokens of devices are found on both canvases or on neither
- `hidesPorts_of_generate` — what becomes of a document whose ports are hidden
-/

namespace InfraDiagram

open Dot

-- ════════════════════════════════════════════════════════════════════════
-- Scenes with and without ports
-- ════════════════════════════════════════════════════════════════════════

/-- The kinds of documents whose diagrams show ports. -/
def Kind.showsPorts : Kind → Bool
  | .siteEquipment | .rackServers | .serverDetails | .device => true
  | _ => false

/-- The plans of other documents do not depend on the options. -/
theorem Plan.ofKind_eq {kind : Kind} (h : kind.showsPorts = false) (doc : Mapping)
    (options options' : RenderOptions) : ofKind kind doc options = ofKind kind doc options' := by
  cases kind with
  | siteTopology | topology | links | intent | unknown => rfl
  | siteEquipment | rackServers | serverDetails | device => cases h

/-- The scenes of a document with and without ports, which differ in the way in which their nodes
    are drawn: `nodes false` draws the sketch of `nodes true` without its ports. -/
structure Sketched (kind : Kind) (doc : Mapping) (options : RenderOptions) (scene : Scene)
    (nodes : Bool → Draw (List Placement)) (s : Sketch) : Prop where
  scenes : ∀ b, (Plan.ofKind kind doc { options with includePorts := b }).scene =
    .ok { scene with nodes := nodes b }
  shown : Sketches (nodes true) s
  hidden : Sketches (nodes false) s.withoutPorts

namespace Sketched

variable {kind : Kind} {doc : Mapping} {options : RenderOptions} {scene : Scene} {s : Sketch}

/-- Where the options do not matter, there is no port in the sketch. -/
theorem of_portFree (hkind : kind.showsPorts = false)
    (h : (Plan.ofKind kind doc options).scene = .ok scene) (hs : Sketches scene.nodes s)
    (hfree : s.PortFree) : Sketched kind doc options scene (fun _ => scene.nodes) s where
  scenes b := by
    rw [Plan.ofKind_eq hkind doc _ options]
    exact h
  shown := hs
  hidden := hfree.eq.symm ▸ hs

theorem of_options (draw : RenderOptions → Draw (List Placement)) (sketch : Bool → Sketch)
    (hscenes : ∀ o, (Plan.ofKind kind doc o).scene = .ok { scene with nodes := draw o })
    (hs : ∀ o, Sketches (draw o) (sketch o.includePorts))
    (hhidden : (sketch true).withoutPorts = sketch false) :
    Sketched kind doc options scene (fun b => draw { options with includePorts := b })
      (sketch true) where
  scenes b := hscenes { options with includePorts := b }
  shown := hs { options with includePorts := true }
  hidden := hhidden.symm ▸ hs { options with includePorts := false }

end Sketched

/-- The scenes of every document, with and without ports. -/
theorem exists_sketched_of_scene {kind : Kind} {doc : Mapping} {options : RenderOptions}
    {scene : Scene} (h : (Plan.ofKind kind doc options).scene = .ok scene) :
    ∃ nodes s, Sketched kind doc options scene nodes s := by
  have hscene := h
  cases Stages.of_scene h with
  | @siteTopology sites =>
    exact ⟨_, _, .of_portFree rfl hscene (.entities Site.declaration _ sites)
      (.entities (fun _ => rfl) sites)⟩
  | @siteEquipment racks site cabling hracks hsite hcabling =>
    exact ⟨_, _, .of_options (fun o => drawRackDiagram site racks .device o) _
      (fun _ => (Stages.siteEquipment hracks hsite hcabling).scene_eq_ok)
      (fun o => sketches_rackDiagram site racks .device o)
      (Sketch.withoutPorts_racks site racks (by decide) true)⟩
  | @rackServers racks cabling hracks hcabling =>
    exact ⟨_, _, .of_options (fun o => drawRackDiagram none racks .server o) _
      (fun _ => (Stages.rackServers hracks hcabling).scene_eq_ok)
      (fun o => sketches_rackDiagram none racks .server o)
      (Sketch.withoutPorts_racks none racks (by decide) true)⟩
  | @serverDetails _ servers peers _ hentities hservers hpeers hcabling =>
    exact ⟨_, _, .of_options (fun o => drawServers servers peers o) _
      (fun _ => (Stages.serverDetails hentities hservers hpeers hcabling).scene_eq_ok)
      (fun o => sketches_servers servers peers o)
      (Sketch.withoutPorts_servers servers peers true)⟩
  | @topology _ devices =>
    exact ⟨_, _, .of_portFree rfl hscene (sketches_zoned devices)
      (Sketch.portFree_zoned devices)⟩
  | @device _ device _ hmarker hvalue hdevice hrecords =>
    exact ⟨_, _, .of_options (fun o => do return [← device.drawStack o]) device.sketchStack
      (fun _ => (Stages.device hmarker hvalue hdevice hrecords).scene_eq_ok)
      (fun o => (sketches_stack device o).andThen fun _ => .pure)
      (device.withoutPorts_sketchStack true)⟩
  | nullDevice hmarker =>
    exact ⟨_, _, .of_options (fun _ => pure []) (fun _ => .empty)
      (fun _ => (Stages.nullDevice hmarker).scene_eq_ok) (fun _ => .pure) rfl⟩
  | links =>
    refine ⟨_, _, .of_portFree rfl hscene (.entities Implied.declaration _ _)
      (.entities (fun n => ?_) _)⟩
    obtain ⟨key, _ | d⟩ := n <;> rfl
  | @intent _ devices =>
    exact ⟨_, _, .of_portFree rfl hscene (sketches_intent _ devices)
      ((Sketch.PortFree.single rfl).append (Sketch.portFree_zoned devices))⟩
  | nullTopology | nullIntent => exact ⟨_, _, .of_portFree rfl hscene .pure .empty⟩
  | unknown =>
    exact ⟨_, _, .of_portFree rfl hscene ((Sketches.warn _).andThen fun _ => .pure) .empty⟩

-- ════════════════════════════════════════════════════════════════════════
-- Results that a sketch describes
-- ════════════════════════════════════════════════════════════════════════

namespace Generated

/-- A node of a result for a declaration. Its identifier is made from its key, and it has one entry
    in the node map, which says what was declared. -/
structure ShowsAs (g : Generated) (d : Declaration) (n : Node) : Prop where
  key : n.key = d.key
  attrs : n.attrs = Canvas.nodeAttrs d
  id : Id.MadeFrom d.key n.id
  entry : g.nodeMap.refsOf n.id = [Canvas.refOf d n.id]

/-- A result whose nodes and clusters a sketch describes. -/
def Depicts (g : Generated) (s : Sketch) : Prop :=
  Layer.Depicts g.ShowsAs
    ⟨g.diagram.graph.nodes, g.diagram.graph.clusters, g.diagram.graph.ordering⟩ s

end Generated

/-- A document whose scene has a sketch is drawn like it. -/
theorem Course.depicts {m : Mapping} {options : RenderOptions} {g : Generated} {w : Groundwork}
    {es : List Event} {l : Log} (h : Course m options g w es l) {s : Sketch}
    (hs : Sketches w.scene.nodes s) : g.Depicts s := by
  obtain ⟨-, hdrawn⟩ := Plan.groundwork_eq_ok h.groundwork
  have hcomments : Sketches ((Plan.ofKind g.kind m options).comments.forM comment) .empty :=
    .forM_empty .comment
  obtain ⟨hscopes, es', hrun, hlayer⟩ :=
    (hcomments.after fun _ => hs).at_top (c := Canvas.blank) rfl rfl
  rw [bind_apply, hdrawn] at hscopes hrun hlayer
  have hcanvas : w.canvas = run es' .blank := hrun
  have haccounts : w.canvas.Accounts (logOf es' .blank).calls :=
    hcanvas ▸ Canvas.accounts_run es'
  have hdiagram := h.diagram_eq hscopes
  have hshown : w.canvas.layer.Depicts g.ShowsAs s := hlayer g.ShowsAs fun call hcall hid =>
    ⟨rfl, rfl, hid, by rw [h.nodeMap]; exact haccounts.refsOf hcall⟩
  rw [Generated.Depicts, hdiagram]
  exact hshown

/-- A document that has a scene is drawn. -/
theorem exists_generate_of_scene {m : Mapping} {options : RenderOptions} {scene : Scene}
    (h : (Plan.ofKind (classifyMapping m) m options).scene = .ok scene) :
    ∃ g w es l, generate (.mapping m) options = .ok g ∧ Course m options g w es l ∧
      w.scene = scene := by
  have hgroundwork : ∃ w, (Plan.ofKind (classifyMapping m) m options).groundwork = .ok w := by
    rw [Plan.groundwork, h]
    exact ⟨_, rfl⟩
  obtain ⟨w, hw⟩ := hgroundwork
  obtain ⟨g, hg⟩ : ∃ g, generate (.mapping m) options = .ok g := by
    simp only [generate, drawDocument_eq, hw]
    exact ⟨_, rfl⟩
  obtain ⟨m', w', es, l, heq, hcourse⟩ := exists_course hg
  cases heq
  refine ⟨g, w', es, l, hg, hcourse, ?_⟩
  have hscene := (Plan.groundwork_eq_ok hcourse.groundwork).1
  rw [hcourse.kind, h] at hscene
  exact (Except.ok.inj hscene).symm

-- ════════════════════════════════════════════════════════════════════════
-- The common rank
-- ════════════════════════════════════════════════════════════════════════

/-- Identifiers of nodes with the same key. -/
def Dot.Graph.SameKey (g g' : Graph) (id id' : String) : Prop :=
  ∃ n ∈ g.allNodes, ∃ n' ∈ g'.allNodes, n.id = id ∧ n'.id = id' ∧ n.key = n'.key

/-- Items that belong to the same values are related one by one. -/
theorem forall₂_of_map_eq {α β γ : Type} {f : α → γ} {f' : β → γ} {R : α → β → Prop} {xs : List α}
    {ys : List β} (h : xs.map f = ys.map f')
    (hR : ∀ x ∈ xs, ∀ y ∈ ys, f x = f' y → R x y) : List.Forall₂ R xs ys := by
  induction xs generalizing ys with
  | nil =>
    rw [List.map_nil, eq_comm, List.map_eq_nil_iff] at h
    exact h ▸ .nil
  | cons x xs ih =>
    obtain ⟨y, ys, rfl, hy, hys⟩ := List.map_eq_cons_iff.1 h.symm
    refine .cons (hR x (by simp) y (by simp) hy.symm) (ih hys.symm fun x' hx' y' hy' => ?_)
    exact hR x' (List.mem_cons_of_mem _ hx') y' (List.mem_cons_of_mem _ hy')

theorem ListsRacks.racks_unique {kind : Kind} {m : Mapping} {racks racks' : List Rack}
    {site site' : Option Site} (h : ListsRacks kind m racks site)
    (h' : ListsRacks kind m racks' site') : racks = racks' := by
  cases h with
  | equipment h =>
    cases h' with
    | equipment h' => exact Except.ok.inj (h.symm.trans h')
  | servers h =>
    cases h' with
    | servers h' => exact Except.ok.inj (h.symm.trans h')

/-- The anchor of a rack is a node of the result, under the key of its rack. -/
theorem RacksLaidOut.exists_anchor {m : Mapping} {options : RenderOptions} {g : Generated}
    {racks : List Rack} {site : Option Site} {w : Groundwork} {drawn : List DrawnRack}
    (h : RacksLaidOut m options g racks site w drawn) {r : DrawnRack} (hr : r ∈ drawn) :
    ∃ n ∈ g.diagram.graph.allNodes, n.id = r.placement.anchor ∧ n.key = r.rack.anchor.key := by
  have hlaid := h.laidOut.each r hr
  have hinside : r.cluster.Inside g.diagram.graph.clusters := by
    have hclusters := h.clusters
    unfold Framed at hclusters
    split at hclusters
    · exact .here (hclusters ▸ List.mem_map_of_mem hr)
    · obtain ⟨id, hclusters⟩ := hclusters
      rw [hclusters]
      exact .deeper List.mem_cons_self (.here (List.mem_map_of_mem hr))
  -- the anchor is declared first
  obtain ⟨n, rest, hnodes, hid, -⟩ := List.map_eq_cons_iff.1 hlaid.ids
  have hkey := hlaid.declared
  rw [hnodes, Rack.declarations, List.map_cons, List.map_cons, List.cons.injEq] at hkey
  refine ⟨n, List.mem_append_right _ (hinside.sublist.subset ?_), hid, congrArg Prod.fst hkey.1⟩
  rw [Cluster.allNodes_eq, hnodes]
  exact List.mem_append_left _ List.mem_cons_self

/-- The program leaves the group of equal rank as it is. -/
theorem Lays.sameRank {α : Type} {m : Draw α} {post : Layer → α → Prop} (h : Lays [] m post)
    (c : Canvas) : (m c).2.graph.sameRank = c.graph.sameRank := by
  obtain ⟨l, houtline, -, -⟩ := h c (by simp)
  have hgrow : ∀ o : Outline, (o.grow l).graph.sameRank = o.graph.sameRank := by
    rintro ⟨graph, _ | ⟨inner, outer⟩⟩ <;> rfl
  exact (congrArg (·.graph.sameRank) houtline).trans (hgrow c.outline)

theorem sameRank_comments (comments : List String) (c : Canvas) :
    (comments.forM comment c).2.graph.sameRank = c.graph.sameRank := by
  induction comments generalizing c with
  | nil => rfl
  | cons text comments ih => exact ih (comment text c).2

namespace Course

variable {m : Mapping} {options options' : RenderOptions} {g g' : Generated} {w w' : Groundwork}
  {es es' : List Event} {l l' : Log}

theorem sameRank (h : Course m options g w es l) :
    g.diagram.graph.sameRank = w.canvas.graph.sameRank := by
  rw [h.diagram, Canvas.sameRank_finish]
  rfl

/-- Servers and single devices are not put on a common rank. -/
theorem sameRank_eq_nil (h : Course m options g w es l)
    (hkind : g.kind = .serverDetails ∨ g.kind = .device) : g.diagram.graph.sameRank = [] := by
  obtain ⟨hscene, hdrawn⟩ := Plan.groundwork_eq_ok h.groundwork
  have hkeeps : ∀ c, (w.scene.nodes c).2.graph.sameRank = c.graph.sameRank := by
    generalize w.scene = scene at hscene
    rcases hkind with hkind | hkind
    · rw [hkind] at hscene
      cases Stages.of_scene hscene with
      | @serverDetails _ servers peers => exact (weaves_servers servers peers options).sameRank
    · rw [hkind] at hscene
      cases Stages.of_scene hscene with
      | @device _ device => exact (weaves_stack device options).sameRank
      | nullDevice => exact fun _ => rfl
  have hnodes := hkeeps ((Plan.ofKind g.kind m options).comments.forM comment .blank).2
  rw [hdrawn, sameRank_comments] at hnodes
  exact h.sameRank.trans hnodes

/-- Where the options do not matter, there is one groundwork. -/
theorem groundwork_eq (h : Course m options g w es l) (h' : Course m options' g' w' es' l')
    (hshows : g.kind.showsPorts = false) : w' = w := by
  have hsame := h'.groundwork
  rw [h'.kind, ← h.kind, ← Plan.ofKind_eq hshows m options options', h.groundwork] at hsame
  exact (Except.ok.inj hsame).symm

/-- The results of a document with and without ports have the same nodes on the common rank. -/
theorem forall₂_sameKey (h : Course m options g w es l) (h' : Course m options' g' w' es' l') :
    List.Forall₂ (g.diagram.graph.SameKey g'.diagram.graph) g.diagram.graph.sameRank
      g'.diagram.graph.sameRank := by
  have hkinds : g'.kind = g.kind := h'.kind.trans h.kind.symm
  cases hshows : g.kind.showsPorts with
  | false =>
    -- nothing depends on the options here
    have hw : w' = w := h.groundwork_eq h' hshows
    have hdiagram : g'.diagram = g.diagram := by rw [h'.diagram, h.diagram, hw]
    rw [hdiagram]
    refine List.forall₂_same.2 fun id hid => ?_
    obtain ⟨n, hn, rfl⟩ := List.mem_map.1 (h.endsDeclared.ranked id hid)
    exact ⟨n, hn, n, hn, rfl, rfl, rfl⟩
  | true =>
    have hracks : g.kind = .siteEquipment ∨ g.kind = .rackServers ∨
        g.kind = .serverDetails ∨ g.kind = .device := by
      revert hshows
      cases g.kind <;> decide
    rcases or_assoc.2 hracks with hracks | hnone
    · obtain ⟨racks, site, drawn, hlists, hlaid⟩ := h.racksLaidOut hracks
      obtain ⟨racks', site', drawn', hlists', hlaid'⟩ := h'.racksLaidOut (hkinds.symm ▸ hracks)
      rw [hkinds] at hlists'
      obtain rfl := hlists.racks_unique hlists'
      rw [hlaid.sameRank, hlaid'.sameRank]
      split_ifs
      · exact .nil
      · rw [List.forall₂_map_left_iff, List.forall₂_map_right_iff]
        have hsame := hlaid.laidOut.racks.trans hlaid'.laidOut.racks.symm
        refine forall₂_of_map_eq hsame fun r hr r' hr' hrack => ?_
        obtain ⟨n, hn, hid, hkey⟩ := hlaid.exists_anchor hr
        obtain ⟨n', hn', hid', hkey'⟩ := hlaid'.exists_anchor hr'
        exact ⟨n, hn, n', hn', hid, hid', by rw [hkey, hkey', hrack]⟩
    · rw [h.sameRank_eq_nil hnone, h'.sameRank_eq_nil (hkinds.symm ▸ hnone)]
      exact .nil

end Course

-- ════════════════════════════════════════════════════════════════════════
-- Connections
-- ════════════════════════════════════════════════════════════════════════

/-- Edges that agree in everything but the ports at their ends: in their labels, their styles and
    their colors. -/
def Dot.Edge.SameLine (e e' : Edge) : Prop :=
  ∀ name, name ≠ "taillabel" → name ≠ "headlabel" → e.attrs.get? name = e'.attrs.get? name

/-- A connection whose ends name listed devices by their ids, or do not name a node of either node
    map. -/
def Connection.AvoidsPorts (conn : Connection) (listed : List Device) (m m' : NodeMap) : Prop :=
  ∀ e ∈ conn.endpoints, (∃ d ∈ listed, d.id = Text.trim e.device) ∨
    Text.trim e.device ∉ m.keys ∧ Text.trim e.device ∉ m'.keys

/-- A canvas on which all listed devices are found by their ids. -/
def Canvas.Finds (c : Canvas) (listed : List Device) : Prop :=
  ∀ d ∈ listed, ∃ id, c.lookupDevice d.id = some id

/-- Labels at the ends do not matter to other attributes. -/
theorem get?_endLabels_of_ne {name : String} (htail : name ≠ "taillabel")
    (hhead : name ≠ "headlabel") (attrs : Attrs) (source target : Attachment) :
    (endLabels attrs source target).get? name = attrs.get? name := by
  obtain ⟨s, _ | p⟩ := source <;> obtain ⟨t, _ | q⟩ := target <;>
    simp [endLabels, Attrs.text, Attrs.get?_set, htail, hhead]

namespace Resolver

variable {listed : List Device} {token : String} {c c' : Canvas}

/-- A token that is no key is found under the id of the first device of the type that it names. -/
theorem map_key_resolve_of_unknown (hc : c.Finds listed) (htoken : isPlaceholder token = false)
    (hdevice : c.lookupDevice (Text.trim token) = none)
    (hkey : c.lookup (Text.trim token) = none) :
    ((ofDevices listed).resolve token c).map (·.key) =
      match listed.find? fun d => d.type == Text.trim token with
      | some d => .ok d.id
      | none => .error .noMatch := by
  cases hfirst : listed.find? fun d => d.type == Text.trim token with
  | none =>
    have hcandidate := find?_ofDevices listed (Text.trim token)
    rw [hfirst, Option.map_none] at hcandidate
    simp only [resolve, htoken, Bool.false_eq_true, if_false, hdevice, hkey, Option.or_none,
      hcandidate]
    rfl
  | some d =>
    obtain ⟨node, hnode⟩ := hc d (List.mem_of_find?_eq_some hfirst)
    rw [resolve_ofDevices_of_type htoken hdevice hkey hfirst hnode]
    rfl

/-- On two canvases with all devices, a token that is an id of a device or no key at all is found
    under the same key, or missing on both for the same reason. -/
theorem map_key_resolve_eq (hc : c.Finds listed) (hc' : c'.Finds listed)
    (h : (∃ d ∈ listed, d.id = Text.trim token) ∨
      (c.lookupDevice (Text.trim token) = none ∧ c.lookup (Text.trim token) = none) ∧
        c'.lookupDevice (Text.trim token) = none ∧ c'.lookup (Text.trim token) = none) :
    ((ofDevices listed).resolve token c).map (·.key) =
      ((ofDevices listed).resolve token c').map (·.key) := by
  cases htoken : isPlaceholder token with
  | true => simp only [resolve, htoken, if_true]
  | false =>
    rcases h with ⟨d, hd, hid⟩ | ⟨⟨hdevice, hkey⟩, hdevice', hkey'⟩
    · obtain ⟨node, hnode⟩ := hc d hd
      obtain ⟨node', hnode'⟩ := hc' d hd
      rw [resolve_of_lookupDevice htoken (hid ▸ hnode),
        resolve_of_lookupDevice htoken (hid ▸ hnode')]
      rfl
    · rw [map_key_resolve_of_unknown hc htoken hdevice hkey,
        map_key_resolve_of_unknown hc' htoken hdevice' hkey']

end Resolver

/-- An end whose token is found on both canvases or on neither has a place on both or on neither. -/
theorem Endpoint.agree_place {e : Endpoint} {r : Resolver} {c c' : Canvas}
    (h : (r.resolve e.device c).map (·.key) = (r.resolve e.device c').map (·.key)) :
    Agree Eq (fun _ _ => True) (e.place r c) (e.place r c') := by
  have hfound : Agree Eq (fun _ _ => True) (r.resolve e.device c) (r.resolve e.device c') := by
    revert h
    cases r.resolve e.device c with
    | ok found =>
      cases r.resolve e.device c' with
      | ok found' => exact fun _ => .ok trivial
      | error reason => exact fun h => by cases h
    | error reason =>
      cases r.resolve e.device c' with
      | ok found' => exact fun h => by cases h
      | error reason' => exact fun h => .error (Except.error.inj h)
  exact hfound.map fun _ _ _ => trivial

namespace Connection

variable {conn : Connection} {r : Resolver} {c c' : Canvas}

/-- A connection whose ends are found on both canvases or on neither becomes the same line. -/
theorem rel_edge? (h : ∀ e ∈ conn.endpoints, Agree Eq (fun _ _ => True) (e.place r c)
    (e.place r c')) : Option.Rel Edge.SameLine (conn.edge? r c) (conn.edge? r c') := by
  have hsource := h conn.source (by simp [endpoints])
  have htarget := h conn.target (by simp [endpoints])
  unfold edge?
  revert hsource htarget
  generalize conn.source.place r c = s
  generalize conn.source.place r c' = s'
  generalize conn.target.place r c = t
  generalize conn.target.place r c' = t'
  rintro (⟨-⟩ | ⟨-⟩) (⟨-⟩ | ⟨-⟩)
  · refine .some fun name htail hhead => ?_
    rw [get?_endLabels_of_ne htail hhead, get?_endLabels_of_ne htail hhead]
  · exact .none
  · exact .none
  · exact .none

theorem problems_eq (h : ∀ e ∈ conn.endpoints, Agree Eq (fun _ _ => True) (e.place r c)
    (e.place r c')) : conn.problems r c = conn.problems r c' := by
  have hend : ∀ e ∈ conn.endpoints, e.problems r c conn.context = e.problems r c' conn.context := by
    intro e he
    have hplace := h e he
    unfold Endpoint.problems
    revert hplace
    generalize e.place r c = a
    generalize e.place r c' = a'
    rintro (⟨-⟩ | ⟨rfl⟩)
    · rfl
    · rfl
  unfold problems
  rw [hend conn.source (by simp [endpoints]), hend conn.target (by simp [endpoints])]

end Connection

/-- In a document that shows ports, every listed device is drawn. -/
theorem exists_finds {kind : Kind} (hkind : kind.showsPorts = true) {doc : Mapping}
    {options : RenderOptions} {w : Groundwork}
    (h : (Plan.ofKind kind doc options).groundwork = .ok w) :
    ∃ listed, kind.listing doc = .ok listed ∧ w.scene.resolver = .ofDevices listed ∧
      w.canvas.Finds listed ∧ ∀ key, key ∉ w.canvas.nodeMap.keys →
        w.canvas.lookupDevice key = none ∧ w.canvas.lookup key = none := by
  obtain ⟨es, listed, drawn, hrun, hresolver, hroster, -⟩ :=
    exists_roster (by rintro rfl; cases hkind) h
  have hc : w.canvas.Accounts (logOf es .blank).calls := hrun ▸ Canvas.accounts_run es
  have hmap : w.canvas.nodeMap = enterAll .empty (logOf es .blank).calls := by
    rw [← hrun, nodeMap_run]
    rfl
  refine ⟨listed, hroster.listing, hresolver, fun d hd => ?_, fun key => hc.unknown hmap⟩
  obtain ⟨x, -, -, -, hid⟩ := hroster.exists_first hc hd
    (hroster.exists_drawn_of_mem (by rintro rfl; cases hkind) hd)
  exact ⟨_, hid⟩

-- ════════════════════════════════════════════════════════════════════════
-- Results with and without ports
-- ════════════════════════════════════════════════════════════════════════

/-- Without ports, there are no lines to them. -/
theorem Course.edges_canvas_of_hidden {m : Mapping} {options : RenderOptions} {g : Generated}
    {w : Groundwork} {es : List Event} {l : Log} (h : Course m options g w es l)
    (hidden : options.includePorts = false) : w.canvas.graph.edges = [] := by
  rw [h.edges_canvas]
  split_ifs with hlinks
  · have hkind : g.kind = .siteEquipment ∨ g.kind = .rackServers := by
      revert hlinks
      cases g.kind <;> decide
    obtain ⟨racks, site, -, hdraw⟩ := h.exists_racks hkind
    obtain ⟨drawn, hdrawn, hplaces, -, -⟩ := drawRackDiagram_blank site racks _ options hdraw
    rw [hplaces, List.flatMap_eq_nil_iff]
    intro p hp
    obtain ⟨r, hr, hp⟩ := List.mem_flatMap.1 hp
    have hplace : (p.key, p.ports.map Prod.fst) ∈
        (Rack.displayOrder r.rack.devices).map fun d =>
          (d.id, (d.shownPorts options.includePorts).map (·.name)) :=
      (hdrawn.each r hr).places ▸ List.mem_map_of_mem hp
    obtain ⟨d, -, hd⟩ := List.mem_map.1 hplace
    rw [hidden] at hd
    have hports : p.ports = [] := List.map_eq_nil_iff.1 (congrArg Prod.snd hd).symm
    rw [Placement.portLinks, hports]
    rfl
  · rfl

/-- The diagnostics about connections: those that name the place of one. -/
def Generated.wiringProblems (g : Generated) : List Diagnostic :=
  g.diagnostics.filter fun d => d.context?.isSome

theorem Course.wiringProblems {m : Mapping} {options : RenderOptions} {g : Generated}
    {w : Groundwork} {es : List Event} {l : Log} (h : Course m options g w es l) :
    g.wiringProblems = w.problems := by
  have hcanvas : w.canvas.diagnostics.filter (fun d => d.context?.isSome) = [] :=
    List.filter_eq_nil_iff.2 fun d hd => by simp [h.context?_canvas d hd]
  have hproblems : w.problems.filter (fun d => d.context?.isSome) = w.problems := by
    refine List.filter_eq_self.2 fun d hd => ?_
    obtain ⟨context, hcontext⟩ := h.exists_context d hd
    rw [hcontext]
    rfl
  rw [Generated.wiringProblems, h.diagnostics, List.filter_append, hcanvas, hproblems,
    List.nil_append]

/-- What connections become in two results of one document: the same lines and the same problems. -/
structure SameWiring (g g' : Generated) (w w' : Groundwork) : Prop where
  lines : ∀ conn ∈ w.connections, Option.Rel Edge.SameLine
    (conn.edge? w.scene.resolver w.canvas) (conn.edge? w'.scene.resolver w'.canvas)
  problems : g'.wiringProblems = g.wiringProblems

/-- Two results of one document, of which the second one is drawn without ports. -/
structure HidesPorts (m : Mapping) (g g' : Generated) (w w' : Groundwork) : Prop where
  kind : g'.kind = g.kind
  /-- Without ports, the same is declared in the same clusters, up to ports. -/
  sketch : ∃ s, g.Depicts s ∧ g'.Depicts s.withoutPorts
  rank : List.Forall₂ (g.diagram.graph.SameKey g'.diagram.graph) g.diagram.graph.sameRank
    g'.diagram.graph.sameRank
  connections : w'.connections = w.connections
  /-- The lines from devices to their ports come before those of connections. -/
  edges : g.diagram.graph.edges =
    (if g.kind.linksPorts then w.places.flatMap Placement.portLinks else []) ++ w.edges
  edgesHidden : g'.diagram.graph.edges = w'.edges
  /-- Connections that avoid ports become the same lines, or the same problems. -/
  wiring : ∃ listed, g.kind.listing m = .ok listed ∧
    ((∀ conn ∈ w.connections, conn.AvoidsPorts listed g.nodeMap g'.nodeMap) →
      SameWiring g g' w w')

/-- The devices of a document that is drawn can be listed. -/
theorem exists_listing {kind : Kind} {doc : Mapping} {options : RenderOptions} {scene : Scene}
    (h : (Plan.ofKind kind doc options).scene = .ok scene) :
    ∃ listed, kind.listing doc = .ok listed := by
  by_cases hkind : kind = .siteTopology
  · rw [hkind]
    exact ⟨[], rfl⟩
  · obtain ⟨listed, declared, drawn, henrols⟩ := exists_enrols_of_scene hkind h
    exact ⟨listed, henrols.listing⟩

namespace Course

variable {m : Mapping} {options options' : RenderOptions} {g g' : Generated} {w w' : Groundwork}
  {es es' : List Event} {l l' : Log}

/-- Connections that avoid ports do not depend on the options. -/
theorem exists_sameWiring (h : Course m options g w es l) (h' : Course m options' g' w' es' l')
    (hlinks : w'.scene.connections = w.scene.connections) :
    ∃ listed, g.kind.listing m = .ok listed ∧
      ((∀ conn ∈ w.connections, conn.AvoidsPorts listed g.nodeMap g'.nodeMap) →
        SameWiring g g' w w') := by
  cases hshows : g.kind.showsPorts with
  | false =>
    obtain ⟨listed, hlisting⟩ := exists_listing (Plan.groundwork_eq_ok h.groundwork).1
    obtain rfl : w' = w := h.groundwork_eq h' hshows
    refine ⟨listed, hlisting, fun _ => ⟨fun conn _ => ?_, ?_⟩⟩
    · cases conn.edge? w'.scene.resolver w'.canvas with
      | none => exact .none
      | some e => exact .some fun _ _ _ => rfl
    · rw [h.wiringProblems, h'.wiringProblems]
  | true =>
    obtain ⟨listed, hlisting, hresolver, hfinds, hunknown⟩ := exists_finds hshows h.groundwork
    have hshows' : g'.kind.showsPorts = true := by
      rw [h'.kind, ← h.kind]
      exact hshows
    obtain ⟨listed', hlisting', hresolver', hfinds', hunknown'⟩ :=
      exists_finds hshows' h'.groundwork
    rw [h'.kind, ← h.kind, hlisting] at hlisting'
    cases hlisting'
    refine ⟨listed, hlisting, fun havoids => ?_⟩
    have hplaces : ∀ conn ∈ w.connections, ∀ e ∈ conn.endpoints,
        Agree Eq (fun _ _ => True) (e.place w.scene.resolver w.canvas)
          (e.place w.scene.resolver w'.canvas) := by
      intro conn hconn e he
      refine Endpoint.agree_place ?_
      rw [hresolver]
      refine Resolver.map_key_resolve_eq hfinds hfinds' ((havoids conn hconn e he).imp_right ?_)
      rw [h.nodeMap, h'.nodeMap]
      exact And.imp (hunknown _) (hunknown' _)
    refine ⟨fun conn hconn => ?_, ?_⟩
    · rw [hresolver', ← hresolver]
      exact conn.rel_edge? (hplaces conn hconn)
    · rw [h.wiringProblems, h'.wiringProblems, Groundwork.problems, Groundwork.problems,
        Groundwork.connections, hlinks, hresolver', ← hresolver]
      refine congrArg (w.scene.connections.problems ++ ·) ?_
      rw [List.flatMap_def, List.flatMap_def]
      exact congrArg List.flatten (List.map_congr_left fun conn hconn =>
        (conn.problems_eq (hplaces conn hconn)).symm)

end Course

/-- **Hiding ports only hides ports.** Every document that can be drawn can be drawn with and
    without ports. Without ports, the result has the nodes of the other one that are no ports, under
    the same keys, with the same attributes and the same entities, in the same clusters and in the
    same order; identifiers differ in numbers at their ends at most. The common rank has the same
    nodes. If the connections of the document name devices by their ids, or no node at all, then the
    same connections become lines, of the same looks, and the others are reported alike. -/
theorem hidesPorts_of_generate {doc : Value} {options : RenderOptions} {g₀ : Generated}
    (h : generate doc options = .ok g₀) :
    ∃ m g g' w w', doc = .mapping m ∧
      generate doc { options with includePorts := true } = .ok g ∧
      generate doc { options with includePorts := false } = .ok g' ∧
      (Plan.ofKind g.kind m { options with includePorts := true }).groundwork = .ok w ∧
      (Plan.ofKind g.kind m { options with includePorts := false }).groundwork = .ok w' ∧
      HidesPorts m g g' w w' := by
  obtain ⟨m, w₀, es₀, l₀, rfl, hcourse₀⟩ := exists_course h
  have hscene₀ := (Plan.groundwork_eq_ok hcourse₀.groundwork).1
  rw [hcourse₀.kind] at hscene₀
  obtain ⟨nodes, s, hs⟩ := exists_sketched_of_scene hscene₀
  obtain ⟨g, w, es, l, hg, hcourse, hw⟩ := exists_generate_of_scene (hs.scenes true)
  obtain ⟨g', w', es', l', hg', hcourse', hw'⟩ := exists_generate_of_scene (hs.scenes false)
  have hkind : g'.kind = g.kind := hcourse'.kind.trans hcourse.kind.symm
  have hlinks : w'.scene.connections = w.scene.connections := by
    rw [hw, hw']
    rfl
  refine ⟨m, g, g', w, w', rfl, hg, hg', hcourse.groundwork, hkind ▸ hcourse'.groundwork, ?_⟩
  exact {
    kind := hkind
    sketch := ⟨s, hcourse.depicts (by rw [hw]; exact hs.shown),
      hcourse'.depicts (by rw [hw']; exact hs.hidden)⟩
    rank := hcourse.forall₂_sameKey hcourse'
    connections := congrArg Connection.Decoded.connections hlinks
    edges := by rw [hcourse.edges, hcourse.edges_canvas]
    edgesHidden := by rw [hcourse'.edges, hcourse'.edges_canvas_of_hidden rfl, List.nil_append]
    wiring := hcourse.exists_sameWiring hcourse' hlinks }

/-- A rack with a device whose first port is named like a device in the rack beside it, and a
    connection from its second port to that device. -/
def eclipsed : Mapping :=
  [("racks", .list [
      .mapping [("id", .text "r"), ("devices", .list [
        .mapping [("id", .text "d"), ("ports", .list [.text "p", .text "q"])]])],
      .mapping [("id", .text "s"), ("devices", .list [.text "d:p"])]]),
    ("connections", .list [.mapping [
      ("from", .mapping [("device", .text "d"), ("port", .text "q")]), ("to", .text "d:p")]])]

/-- The connection names devices only. -/
theorem avoidsPorts_eclipsed {listed : List Device} {w : Groundwork}
    (hlisted : Kind.siteEquipment.listing eclipsed = .ok listed)
    (hw : (Plan.ofKind .siteEquipment eclipsed .standard).groundwork = .ok w) (m m' : NodeMap) :
    ∀ conn ∈ w.connections, conn.AvoidsPorts listed m m' := by
  have hids : ((Kind.siteEquipment.listing eclipsed).toOption.map fun listed =>
      listed.map (·.id)) = some ["d", "d:p"] := by
    decide +kernel
  have htokens : ((Plan.ofKind .siteEquipment eclipsed .standard).groundwork.toOption.map fun w =>
      (w.connections.flatMap (·.endpoints)).map fun e => Text.trim e.device) =
      some ["d", "d:p"] := by
    decide +kernel
  rw [hlisted] at hids
  rw [hw] at htokens
  have hsame : ((w.connections.flatMap (·.endpoints)).map fun e => Text.trim e.device) =
      listed.map (·.id) := Option.some.inj (htokens.trans hids.symm)
  intro conn hconn e he
  have hmem : Text.trim e.device ∈ listed.map (·.id) := by
    rw [← hsame]
    exact List.mem_map_of_mem (List.mem_flatMap.2 ⟨conn, hconn, he⟩)
  exact .inl (List.mem_map.1 hmem)

theorem hidesPorts_eclipsed : ∃ m g g' w w', Value.mapping eclipsed = .mapping m ∧
    generate (.mapping eclipsed) .standard = .ok g ∧
    generate (.mapping eclipsed) { RenderOptions.standard with includePorts := false } = .ok g' ∧
    g.diagram.graph.declaredIds =
      ["rack_r", "d", "\"d:p\"", "\"d:q\"", "rack_s", "\"d:p_2\""] ∧
    g'.diagram.graph.declaredIds = ["rack_r", "d", "rack_s", "\"d:p\""] ∧
    g.diagram.graph.edges.map (fun e => (e.source, e.target)) =
      [("d", "\"d:p\""), ("d", "\"d:q\""), ("\"d:q\"", "\"d:p_2\"")] ∧
    g'.diagram.graph.edges.map (fun e => (e.source, e.target)) = [("d", "\"d:p\"")] ∧
    HidesPorts m g g' w w' ∧ SameWiring g g' w w' := by
  have hresult : ((generate (.mapping eclipsed) .standard).toOption.map fun g =>
      (g.kind, g.diagram.graph.declaredIds,
        g.diagram.graph.edges.map fun e => (e.source, e.target))) =
      some (.siteEquipment, ["rack_r", "d", "\"d:p\"", "\"d:q\"", "rack_s", "\"d:p_2\""],
        [("d", "\"d:p\""), ("d", "\"d:q\""), ("\"d:q\"", "\"d:p_2\"")]) := by
    decide +kernel
  have hhidden : ((generate (.mapping eclipsed)
      { RenderOptions.standard with includePorts := false }).toOption.map fun g =>
      (g.diagram.graph.declaredIds,
        g.diagram.graph.edges.map fun e => (e.source, e.target))) =
      some (["rack_r", "d", "rack_s", "\"d:p\""], [("d", "\"d:p\"")]) := by
    decide +kernel
  obtain ⟨g₀, hg₀, -⟩ := exists_of_toOption_map hresult
  obtain ⟨m, g, g', w, w', hm, hg, hg', hw, -, hhides⟩ := hidesPorts_of_generate hg₀
  obtain ⟨g₁, hg₁, hshown⟩ := exists_of_toOption_map hresult
  obtain ⟨g₂, hg₂, hshown'⟩ := exists_of_toOption_map hhidden
  cases hm
  obtain rfl : g₁ = g := Except.ok.inj (hg₁.symm.trans hg)
  obtain rfl : g₂ = g' := Except.ok.inj (hg₂.symm.trans hg')
  simp only [Prod.mk.injEq] at hshown hshown'
  obtain ⟨hkind, hids, hedges⟩ := hshown
  obtain ⟨listed, hlisted, hwiring⟩ := hhides.wiring
  rw [hkind] at hlisted hw
  exact ⟨_, g₁, g₂, w, w', rfl, hg₁, hg₂, hids, hshown'.1, hedges, hshown'.2, hhides,
    hwiring (avoidsPorts_eclipsed hlisted hw _ _)⟩

end InfraDiagram

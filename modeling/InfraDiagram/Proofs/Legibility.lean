import InfraDiagram.Proofs.ReadBack
import InfraDiagram.Proofs.Runs

/-!
# Results are read back

No text of a document can close a string, open a block or start a statement of the program that is
drawn for it: reading the program gives the graph that was built.

## Main definitions

- `Canvas.IsLegible` — a canvas on which everything prints well

## Main statements

- `Canvas.IsLegible.run` — admissible steps keep a canvas legible
- `readsBack_of_generate` — every result is read back
-/

namespace InfraDiagram

open Dot

/-- A layer that prints well. -/
structure Layer.IsPrintable (l : Layer) : Prop where
  nodes : ∀ n ∈ l.nodes, n.IsPrintable
  clusters : ∀ c ∈ l.clusters, c.IsPrintable
  ordering : ∀ e ∈ l.ordering, e.IsOrdering

theorem Layer.IsPrintable.node {n : Node} (h : n.IsPrintable) : (ofNode n).IsPrintable :=
  ⟨by simpa [ofNode] using h, by simp [ofNode], by simp [ofNode]⟩

theorem Layer.IsPrintable.cluster {c : Cluster} (h : c.IsPrintable) : (ofCluster c).IsPrintable :=
  ⟨by simp [ofCluster], by simpa [ofCluster] using h, by simp [ofCluster]⟩

theorem Layer.IsPrintable.edge {e : Edge} (h : e.IsOrdering) : (ofOrdering [e]).IsPrintable :=
  ⟨by simp [ofOrdering], by simp [ofOrdering], by simpa [ofOrdering] using h⟩

theorem Dot.Cluster.IsPrintable.grow {c : Cluster} {l : Layer} (h : c.IsPrintable)
    (hl : l.IsPrintable) : (c.grow l).IsPrintable := by
  cases h with
  | mk hid hattrs hnodes hclusters hordering =>
    exact .mk hid hattrs (List.forall_mem_append.2 ⟨hnodes, hl.nodes⟩)
      (List.forall_mem_append.2 ⟨hclusters, hl.clusters⟩)
      (List.forall_mem_append.2 ⟨hordering, hl.ordering⟩)

namespace Canvas

/-- A canvas on which everything prints well. Whatever is on the common rank is declared. -/
structure IsLegible (c : Canvas) : Prop where
  graph : c.graph.IsPrintable
  scopes : ∀ s ∈ c.scopes, s.IsPrintable
  declared : ∀ id ∈ c.declared, Id.IsIdentifier id
  ranked : ∀ id ∈ c.graph.sameRank, id ∈ c.declared

theorem isPrintable_nodeAttrs {d : Declaration} (h : d.attrs.IsPrintable) :
    (nodeAttrs d).IsPrintable :=
  (Attrs.isPrintable_empty.lines (by decide) _).merge h

theorem isLegible_blank : blank.IsLegible where
  graph := ⟨by simp [blank, Graph.empty], by simp [blank, Graph.empty],
    by simp [blank, Graph.empty], by simp [blank, Graph.empty], by simp [blank, Graph.empty],
    by simp [blank, Graph.empty]⟩
  scopes := by simp [blank]
  declared := by simp [blank]
  ranked := by simp [blank, Graph.empty]

namespace IsLegible

variable {c : Canvas}

/-- Whatever layer is appended, and wherever it goes. -/
theorem grow (h : c.IsLegible) {l : Layer} (hl : l.IsPrintable) : (c.grow l).IsLegible := by
  obtain ⟨graph, scopes, nodeIds, clusterIds, nodeMap, devices, declared, diagnostics⟩ := c
  rcases scopes with _ | ⟨inner, outer⟩
  · exact {
      graph := { h.graph with
        nodes := List.forall_mem_append.2 ⟨h.graph.nodes, hl.nodes⟩
        clusters := List.forall_mem_append.2 ⟨h.graph.clusters, hl.clusters⟩
        ordering := List.forall_mem_append.2 ⟨h.graph.ordering, hl.ordering⟩ }
      scopes := h.scopes
      declared := h.declared
      ranked := h.ranked }
  · obtain ⟨hinner, houter⟩ := List.forall_mem_cons.1 h.scopes
    exact ⟨h.graph, List.forall_mem_cons.2 ⟨hinner.grow hl, houter⟩, h.declared, h.ranked⟩

theorem closeCluster (h : c.IsLegible) : c.closeCluster.IsLegible := by
  rcases c.closeCluster_cases with ⟨-, hclose⟩ | ⟨inner, outer, hscopes, hclose⟩
  · rwa [hclose]
  · have hopen := h.scopes
    rw [hscopes, List.forall_mem_cons] at hopen
    have houter : IsLegible { c with scopes := outer } :=
      ⟨h.graph, hopen.2, h.declared, h.ranked⟩
    rw [hclose]
    exact houter.grow (.cluster hopen.1)

theorem openCluster (h : c.IsLegible) (key : String) {attrs : Attrs} (hattrs : attrs.IsPrintable) :
    (c.openCluster key attrs).IsLegible := by
  have hopened : (Cluster.empty (c.clusterIds.choose ("cluster_" ++ key)).1 attrs).IsPrintable :=
    .mk (c.clusterIds.isIdentifier_choose _) hattrs (by simp) (by simp) (by simp)
  exact ⟨h.graph, List.forall_mem_cons.2 ⟨hopened, h.scopes⟩, h.declared, h.ranked⟩

theorem declare (h : c.IsLegible) {d : Declaration} (hd : d.attrs.IsPrintable) :
    (c.declareNode d).2.IsLegible := by
  have hid : Id.IsIdentifier (c.declareNode d).1 := c.nodeIds.isIdentifier_choose d.key
  have hregister : (c.register d).2.IsLegible := {
    graph := h.graph
    scopes := h.scopes
    declared := List.forall_mem_cons.2 ⟨hid, h.declared⟩
    ranked := fun id hrank => List.mem_cons_of_mem _ (h.ranked id hrank) }
  rw [declareNode_snd, placeNode_eq_grow]
  exact hregister.grow (.node ⟨hid, isPrintable_nodeAttrs hd⟩)

theorem report (h : c.IsLegible) (d : Diagnostic) : (c.report d).IsLegible :=
  ⟨h.graph, h.scopes, h.declared, h.ranked⟩

theorem edge (h : c.IsLegible) {source target : String} {attrs : Attrs}
    (hattrs : attrs.IsPrintable) (hvisible : attrs.isInvisible = false) :
    (edge source target attrs c).2.IsLegible := by
  rw [edge_apply]
  split_ifs with hdeclared
  · have hedge : Edge.IsPrintable ⟨source, target, attrs⟩ :=
      ⟨h.declared _ hdeclared.1, h.declared _ hdeclared.2, hattrs⟩
    exact {
      graph := { h.graph with
        edges := List.forall_mem_append.2 ⟨h.graph.edges, by simpa using ⟨hedge, hvisible⟩⟩ }
      scopes := h.scopes
      declared := h.declared
      ranked := h.ranked }
  · exact h.report _

theorem orderingEdge (h : c.IsLegible) (source target : String) :
    (orderingEdge source target c).2.IsLegible := by
  rw [orderingEdge_apply]
  split_ifs with hdeclared
  · have hattrs : (Attrs.empty.raw "style" "invis").IsPrintable :=
      Attrs.isPrintable_empty.raw (by decide) (.inl (by decide))
    rw [placeOrdering_eq_grow]
    exact h.grow (.edge
      ⟨⟨h.declared _ hdeclared.1, h.declared _ hdeclared.2, hattrs⟩, Attrs.isInvisible_style⟩)
  · exact h.report _

/-- Only declared identifiers get on the common rank. -/
theorem mem_addSameRank {ids : List String} {id : String}
    (h : id ∈ (c.addSameRank ids).graph.sameRank) :
    id ∈ c.graph.sameRank ∨ id ∈ c.declared := by
  -- the group grows along the induction
  simp only [addSameRank] at h
  generalize c.graph.sameRank = group at h ⊢
  induction ids generalizing group with
  | nil => exact .inl h
  | cons next ids ih =>
    rcases ih _ h with hgroup | hdeclared
    · beta_reduce at hgroup
      split_ifs at hgroup with hnext
      · simp only [Bool.and_eq_true, List.contains_eq_mem, decide_eq_true_eq] at hnext
        rcases List.mem_append.1 hgroup with hgroup | hlast
        · exact .inl hgroup
        · rw [List.mem_singleton.1 hlast]
          exact .inr hnext.1
      · exact .inl hgroup
    · exact .inr hdeclared

theorem addSameRank (h : c.IsLegible) (ids : List String) : (c.addSameRank ids).IsLegible := by
  have hranked : ∀ id ∈ (c.addSameRank ids).graph.sameRank, id ∈ c.declared :=
    fun id hid => (mem_addSameRank hid).elim (h.ranked id) fun hdeclared => hdeclared
  exact {
    graph := { h.graph with sameRank := fun id hid => h.declared id (hranked id hid) }
    scopes := h.scopes
    declared := h.declared
    ranked := hranked }

theorem comment (h : c.IsLegible) (text : String) : (comment text c).2.IsLegible := by
  have hline : '\n' ∉ (Text.withoutControls text).toList := by
    simp [Text.withoutControls, Text.isControl]
  exact {
    graph := { h.graph with
      comments := List.forall_mem_append.2 ⟨h.graph.comments, by simpa using hline⟩ }
    scopes := h.scopes
    declared := h.declared
    ranked := h.ranked }

/-- An admissible step keeps a canvas legible. -/
theorem apply (h : c.IsLegible) {e : Event} (he : e.Admissible c) : (e.apply c).IsLegible := by
  cases e with
  | node d => exact h.declare he
  | opening key attrs => exact h.openCluster key he
  | closing => exact h.closeCluster
  | edge source target attrs => exact h.edge he.2.2.1 he.2.2.2
  | ordering source target => exact h.orderingEdge source target
  | sameRank ids => exact h.addSameRank ids
  | comment text => exact h.comment text
  | warn d => exact h.report d

/-- Admissible steps keep a canvas legible. -/
theorem run (h : c.IsLegible) {es : List Event} (hes : Admits es c) : (run es c).IsLegible := by
  induction es generalizing c with
  | nil => exact h
  | cons e es ih => exact ih (h.apply hes.1) hes.2

end IsLegible

/-- A graph without nodes and clusters has nothing on its common rank, since that was declared. -/
theorem ranksNodes {c : Canvas} {calls : List Call} (haccounts : c.Accounts calls)
    (h : c.IsLegible) (hscopes : c.scopes = []) : c.graph.RanksNodes := by
  intro hempty
  simp only [Graph.isEmpty, Bool.and_eq_true, List.isEmpty_iff] at hempty
  obtain ⟨⟨⟨hnodes, hclusters⟩, -⟩, -⟩ := hempty
  have hnone : c.allNodes = [] := by
    simp [allNodes, Graph.allNodes, hnodes, hclusters, hscopes, Cluster.allNodesOf]
  -- without nodes there was no declaration, so nothing is declared that could be ranked
  have hcalls : calls = [] := by
    have hlength := haccounts.nodes.length_eq
    rw [hnone, List.length_map, List.length_map] at hlength
    exact List.length_eq_zero_iff.1 hlength.symm
  have hdeclared : c.declared = [] := by
    rw [haccounts.declared, hcalls]
    rfl
  rw [List.eq_nil_iff_forall_not_mem]
  intro id hid
  have hmem := h.ranked id hid
  simp [hdeclared] at hmem

end Canvas

/-- **Results are read back.** Whatever a document says and whatever the options are, the program
    says the graph that was built: its comments, its nodes with their attributes, its tree of
    clusters, its ordering edges, its common rank and its visible edges, all of them in order. -/
theorem readsBack_of_generate {doc : Value} {options : RenderOptions} {g : Generated}
    (h : generate doc options = .ok g) :
    Program.read? g.dot = some ⟨Id.ofName options.graphName,
      g.diagram.graph.programDefaults options, g.diagram.graph.eraseKeys⟩ := by
  obtain ⟨m, w, es, l, -, hcourse⟩ := exists_course h
  obtain ⟨hdiagram, hadmits, -⟩ := hcourse.steps_spec
  have hgraph : g.diagram.graph =
      (run (Course.steps w es ++ (run (Course.steps w es) .blank).closings) .blank).graph := by
    rw [hdiagram, Canvas.finish_eq, run_append]
  have hlegible := Canvas.isLegible_blank.run
    (admits_append.2 ⟨hadmits, Canvas.admits_closings _⟩)
  have hscopes := (run (Course.steps w es) .blank).scopes_run_closings
  rw [← run_append] at hscopes
  have hranks := Canvas.ranksNodes (Canvas.accounts_run _) hlegible hscopes
  rw [← hgraph] at hranks
  rw [hcourse.dot]
  exact Graph.read?_toDot (hgraph ▸ hlegible.graph) hranks options

/-- Texts that would end strings and statements if they could. -/
def hostile : Value :=
  .mapping [("topology", .mapping [
    ("devices", .list [.text "a\"]; b -> c; //", .text "\"b\""]),
    ("connections", .list [.mapping [("from", .text "a\"]; b -> c; //"), ("to", .text "\"b\"")]])])]

/-- A name and a font of the same kind. -/
def hostileOptions : RenderOptions :=
  ⟨"\" \x7b x; \x7d", .leftRight, "\\\"];", true⟩

theorem readsBack_hostile : ∃ g, generate hostile hostileOptions = .ok g ∧
    g.diagram.graph.declaredIds = ["\"a\\\"]; b -> c; //\"", "\"b\""] ∧
    Program.read? g.dot = some ⟨Id.ofName hostileOptions.graphName,
      g.diagram.graph.programDefaults hostileOptions, g.diagram.graph.eraseKeys⟩ := by
  have hids : ((generate hostile hostileOptions).toOption.map fun g =>
      g.diagram.graph.declaredIds) = some ["\"a\\\"]; b -> c; //\"", "\"b\""] := by
    decide +kernel
  cases hg : generate hostile hostileOptions with
  | error e => simp [hg, Except.toOption] at hids
  | ok g =>
    refine ⟨g, rfl, ?_, readsBack_of_generate hg⟩
    simpa [hg, Except.toOption] using hids

end InfraDiagram

import InfraDiagram.Proofs.Legibility
import InfraDiagram.Proofs.Records

/-!
# Edges end at declared nodes

At every moment of drawing, the visible edges, the ordering edges and the common rank name declared
nodes only. A step that asks for an edge gets it, or the edge is reported as dangling; no document
ever gives rise to such a report.

## Main definitions

- `ClosedOver` — edges and ranks that name some identifiers only
- `Event.edge?`, `Event.ordering?` — the edges that a step asks for

## Main statements

- `Event.edges_cases` — a step adds the edges it asks for, or reports one
- `Canvas.endsDeclared_run` — what every run keeps
- `closed_over_declarations` — results have all edges that were asked for, with declared ends
-/

namespace InfraDiagram

open Dot

-- ════════════════════════════════════════════════════════════════════════
-- What a step asks for
-- ════════════════════════════════════════════════════════════════════════

namespace Event

/-- The visible edge that a step asks for. -/
def edge? : Event → Option Edge
  | edge source target attrs => some ⟨source, target, attrs⟩
  | _ => none

/-- The ordering edge that a step asks for. -/
def ordering? : Event → Option Edge
  | ordering source target => some ⟨source, target, Attrs.empty.raw "style" "invis"⟩
  | _ => none

/-- A step adds the edges it asks for between declared ends, or adds none and reports one. -/
theorem edges_cases (c : Canvas) (e : Event) :
    ((e.apply c).graph.edges = c.graph.edges ++ e.edge?.toList ∧
        (e.apply c).allOrdering.Perm (c.allOrdering ++ e.ordering?.toList) ∧
        ∀ x ∈ e.edge?.toList ++ e.ordering?.toList,
          x.source ∈ c.declared ∧ x.target ∈ c.declared) ∨
      ((e.apply c).graph.edges = c.graph.edges ∧ (e.apply c).allOrdering = c.allOrdering ∧
        ∃ source target, .danglingEdge source target ∈ (e.apply c).diagnostics) := by
  have hbooks := congrArg Books.edges (e.books_apply c)
  have hordering := e.allOrdering_apply c
  cases e with
  | edge source target attrs =>
    simp only [apply, edge_apply]
    split_ifs with hdeclared
    · exact .inl ⟨rfl, .of_eq (List.append_nil _).symm, by simpa [edge?, ordering?] using hdeclared⟩
    · exact .inr ⟨rfl, rfl, source, target, List.mem_append_right _ (List.mem_singleton.2 rfl)⟩
  | ordering source target =>
    simp only [apply, orderingEdge_apply]
    split_ifs with hdeclared
    · refine .inl ⟨?_, ?_, by simpa [edge?, ordering?] using hdeclared⟩
      · exact (congrArg Books.edges (c.books_placeOrdering _)).trans (List.append_nil _).symm
      · simp only [apply, orderingEdge_apply, Gathering.gained, if_pos hdeclared] at hordering
        exact hordering.trans List.perm_append_comm
    · exact .inr ⟨rfl, rfl, source, target, List.mem_append_right _ (List.mem_singleton.2 rfl)⟩
  | node | opening | closing | sameRank | comment | warn =>
    exact .inl ⟨hbooks.trans (List.append_nil _).symm,
      hordering.trans (.of_eq (List.append_nil _).symm), by simp [edge?, ordering?]⟩

/-- A step reports and never takes a report back. -/
theorem diagnostics_subset (c : Canvas) (e : Event) : c.diagnostics ⊆ (e.apply c).diagnostics := by
  have hbooks : (e.apply c).diagnostics = (e.write c).diagnostics :=
    congrArg Books.diagnostics (e.books_apply c)
  rw [hbooks]
  cases e with
  | edge | ordering =>
    rw [write]
    split_ifs
    · exact List.Subset.refl _
    · exact List.subset_append_left _ _
  | node | warn => exact List.subset_append_left _ _
  | opening | closing | sameRank | comment => exact List.Subset.refl _

end Event

theorem diagnostics_subset_run (es : List Event) (c : Canvas) :
    c.diagnostics ⊆ (run es c).diagnostics := by
  induction es generalizing c with
  | nil => exact List.Subset.refl _
  | cons e es ih => exact List.Subset.trans (e.diagnostics_subset c) (ih (e.apply c))

/-- Steps that leave no edge dangling add every edge they ask for. -/
theorem run_adds {es : List Event} {c : Canvas}
    (h : ∀ source target, .danglingEdge source target ∉ (run es c).diagnostics) :
    (run es c).graph.edges = c.graph.edges ++ es.filterMap Event.edge? ∧
      (run es c).allOrdering.Perm (c.allOrdering ++ es.filterMap Event.ordering?) := by
  induction es generalizing c with
  | nil => exact ⟨(List.append_nil _).symm, .of_eq (List.append_nil _).symm⟩
  | cons e es ih =>
    obtain ⟨hedges, hordering⟩ := ih h
    rcases e.edges_cases c with ⟨hedge, horder, -⟩ | ⟨-, -, source, target, hdangling⟩
    · simp only [List.filterMap_eq_flatMap_toList, List.flatMap_cons, ← List.append_assoc]
        at hedges hordering ⊢
      exact ⟨hedge ▸ hedges, hordering.trans (horder.append_right _)⟩
    · exact absurd (diagnostics_subset_run es (e.apply c) hdangling) (h source target)

-- ════════════════════════════════════════════════════════════════════════
-- Closed over declarations
-- ════════════════════════════════════════════════════════════════════════

/-- Edges and a common rank that name some identifiers only, and no identifier twice on the
    rank. -/
structure ClosedOver (ids : List String) (edges ordering : List Edge) (rank : List String) :
    Prop where
  edges : ∀ e ∈ edges, e.source ∈ ids ∧ e.target ∈ ids
  ordering : ∀ e ∈ ordering, e.source ∈ ids ∧ e.target ∈ ids
  ranked : ∀ id ∈ rank, id ∈ ids
  distinct : rank.Nodup

theorem ClosedOver.mono {ids ids' : List String} {edges ordering : List Edge}
    {rank : List String} (h : ClosedOver ids edges ordering rank) (hsub : ids ⊆ ids') :
    ClosedOver ids' edges ordering rank where
  edges e he := (h.edges e he).imp (@hsub _) (@hsub _)
  ordering e he := (h.ordering e he).imp (@hsub _) (@hsub _)
  ranked id hid := hsub (h.ranked id hid)
  distinct := h.distinct

/-- A graph whose edges and whose common rank name declared nodes only. -/
def Dot.Graph.EndsDeclared (g : Graph) : Prop :=
  ClosedOver g.declaredIds g.edges g.allOrdering g.sameRank

namespace Canvas

/-- A canvas whose edges and whose common rank name nodes that stand on it, be it at top level, in a
    closed cluster or in an open one. -/
def EndsDeclared (c : Canvas) : Prop :=
  ClosedOver (c.allNodes.map (·.id)) c.graph.edges c.allOrdering c.graph.sameRank

/-- An identifier gets on the common rank once. -/
theorem nodup_addSameRank {c : Canvas} (h : c.graph.sameRank.Nodup) (ids : List String) :
    (c.addSameRank ids).graph.sameRank.Nodup := by
  simp only [addSameRank]
  generalize c.graph.sameRank = group at h ⊢
  induction ids generalizing group with
  | nil => exact h
  | cons next ids ih =>
    apply ih
    beta_reduce
    split_ifs with hnext
    · simp only [Bool.and_eq_true, Bool.not_eq_true', List.contains_eq_mem,
        decide_eq_false_iff_not] at hnext
      exact h.append (List.nodup_singleton next) (by simpa using hnext.2)
    · exact h

end Canvas

/-- What a step keeps closed over the declarations. -/
theorem ClosedOver.apply {c : Canvas}
    (h : ClosedOver c.declared c.graph.edges c.allOrdering c.graph.sameRank) (e : Event) :
    ClosedOver (e.apply c).declared (e.apply c).graph.edges (e.apply c).allOrdering
      (e.apply c).graph.sameRank := by
  have hdeclared : c.declared ⊆ (e.apply c).declared := by
    rw [e.declared_apply]
    exact List.subset_append_right _ _
  -- only one kind of step touches the common rank
  have hrank : (∀ id ∈ (e.apply c).graph.sameRank, id ∈ c.declared) ∧
      (e.apply c).graph.sameRank.Nodup := by
    have hbooks : (e.apply c).graph.sameRank = (e.write c).sameRank :=
      congrArg Books.sameRank (e.books_apply c)
    rw [hbooks]
    cases e with
    | sameRank ids =>
      refine ⟨fun id hid => ?_, Canvas.nodup_addSameRank h.distinct ids⟩
      exact (Canvas.IsLegible.mem_addSameRank hid).elim (h.ranked id) fun hdeclared => hdeclared
    | edge | ordering =>
      rw [Event.write]
      split_ifs <;> exact ⟨h.ranked, h.distinct⟩
    | node | opening | closing | comment | warn => exact ⟨h.ranked, h.distinct⟩
  refine mono ⟨?_, ?_, hrank.1, hrank.2⟩ hdeclared
  · rcases e.edges_cases c with ⟨hedges, -, hends⟩ | ⟨hedges, -⟩
    · rw [hedges]
      exact List.forall_mem_append.2 ⟨h.edges, fun x hx => hends x (List.mem_append_left _ hx)⟩
    · rw [hedges]
      exact h.edges
  · rcases e.edges_cases c with ⟨-, hordering, hends⟩ | ⟨-, hordering, -⟩
    · intro x hx
      rcases List.mem_append.1 (hordering.mem_iff.1 hx) with hx | hx
      · exact h.ordering x hx
      · exact hends x (List.mem_append_right _ hx)
    · rw [hordering]
      exact h.ordering

theorem ClosedOver.run {c : Canvas}
    (h : ClosedOver c.declared c.graph.edges c.allOrdering c.graph.sameRank) (es : List Event) :
    ClosedOver (run es c).declared (run es c).graph.edges (run es c).allOrdering
      (run es c).graph.sameRank := by
  induction es generalizing c with
  | nil => exact h
  | cons e es ih => exact ih (h.apply e)

theorem Canvas.Accounts.declared_perm {c : Canvas} {calls : List Call} (h : c.Accounts calls) :
    c.declared.Perm (c.allNodes.map (·.id)) := by
  have hnodes := h.nodes.map Prod.snd
  rw [List.map_map, List.map_map] at hnodes
  rw [h.declared]
  exact (List.reverse_perm _).trans hnodes.symm

/-- Whatever steps are made on a blank canvas, edges and ranks name declared nodes only. -/
theorem Canvas.endsDeclared_run (es : List Event) : (InfraDiagram.run es blank).EndsDeclared := by
  have hblank : ClosedOver blank.declared blank.graph.edges blank.allOrdering
      blank.graph.sameRank :=
    ⟨by simp [blank, Graph.empty], by simp [allOrdering, Graph.allOrdering, blank, Graph.empty,
      Cluster.allOrderingOf], by simp [blank, Graph.empty], .nil⟩
  exact (hblank.run es).mono (accounts_run es).declared_perm.subset

theorem Canvas.sameRank_finish (c : Canvas) : c.finish.graph.sameRank = c.graph.sameRank := by
  rw [finish_eq]
  exact congrArg Books.sameRank c.books_run_closings

/-- What ends at declared nodes does so when it is finished. -/
theorem Canvas.EndsDeclared.finish {c : Canvas} (h : c.EndsDeclared) :
    c.finish.graph.EndsDeclared := by
  have hclosed := ClosedOver.mono h (c.allNodes_finish.map (·.id)).symm.subset
  exact {
    edges := c.edges_finish ▸ hclosed.edges
    ordering := fun e he => hclosed.ordering e (c.allOrdering_finish.mem_iff.1 he)
    ranked := c.sameRank_finish ▸ hclosed.ranked
    distinct := c.sameRank_finish ▸ hclosed.distinct }

/-- No document leaves an edge dangling. -/
theorem Course.not_dangling {m : Mapping} {options : RenderOptions} {g : Generated}
    {w : Groundwork} {es : List Event} {l : Log} (h : Course m options g w es l)
    (source target : String) : .danglingEdge source target ∉ g.diagnostics := by
  rw [h.diagnostics, List.mem_append]
  rintro (hcanvas | hproblem)
  · rcases h.diagnostics_canvas _ hcanvas with ⟨key, base, assigned, heq⟩ | hwarning
    · cases heq
    · unfold Kind.warnings at hwarning
      split_ifs at hwarning <;> simp at hwarning
  · obtain ⟨context, hcontext⟩ := h.exists_context _ hproblem
    cases hcontext

/-- No document leads to an edge or a rank that names what is not declared. -/
theorem Course.endsDeclared {m : Mapping} {options : RenderOptions} {g : Generated}
    {w : Groundwork} {es : List Event} {l : Log} (h : Course m options g w es l) :
    g.diagram.graph.EndsDeclared := by
  obtain ⟨hdiagram, -, -⟩ := h.steps_spec
  rw [hdiagram]
  exact (Canvas.endsDeclared_run _).finish

/-- **Edges are closed over declarations.** After any steps on a blank canvas, the ends of all
    visible edges and of all ordering edges and the identifiers on the common rank are declared,
    and nothing is on the rank twice; steps that leave no edge dangling have added every edge they
    ask for. Whatever a document says, its result is drawn by steps that leave no edge dangling. -/
theorem closed_over_declarations :
    (∀ es, (run es .blank).EndsDeclared) ∧
      (∀ es, (∀ source target, .danglingEdge source target ∉ (run es .blank).diagnostics) →
        (run es .blank).graph.edges = es.filterMap Event.edge? ∧
          (run es .blank).allOrdering.Perm (es.filterMap Event.ordering?)) ∧
      ∀ doc options g, generate doc options = .ok g →
        g.diagram.graph.EndsDeclared ∧
          (∀ source target, .danglingEdge source target ∉ g.diagnostics) ∧
          ∃ es, g.diagram = (run es .blank).finish ∧
            g.diagram.graph.edges = es.filterMap Event.edge? ∧
            g.diagram.graph.allOrdering.Perm (es.filterMap Event.ordering?) := by
  refine ⟨Canvas.endsDeclared_run, fun es h => run_adds h, fun doc options g h => ?_⟩
  obtain ⟨m, w, es, l, -, hcourse⟩ := exists_course h
  obtain ⟨hdiagram, -, -⟩ := hcourse.steps_spec
  have hdangling := hcourse.not_dangling
  refine ⟨hcourse.endsDeclared, hdangling, Course.steps w es, hdiagram, ?_⟩
  have hadds : (run (Course.steps w es) .blank).graph.edges =
        (Course.steps w es).filterMap Event.edge? ∧
      (run (Course.steps w es) .blank).allOrdering.Perm
        ((Course.steps w es).filterMap Event.ordering?) := by
    refine run_adds fun source target hmem => hdangling source target ?_
    rwa [Generated.diagnostics, hdiagram, Canvas.diagnostics_finish]
  rw [hdiagram, Canvas.edges_finish]
  exact ⟨hadds.1, (Canvas.allOrdering_finish _).trans hadds.2⟩

/-- Two racks, one with a device that takes the key of its rack. -/
def usurped : Mapping :=
  [("racks", .list [
      .mapping [("id", .text "r"), ("devices", .list [
        .mapping [("id", .text "rack_r"), ("ports", .list [.text "p"])]])],
      .mapping [("id", .text "q"), ("devices", .list [.text "s"])]]),
    ("connections", .list [.mapping [("from", .text "rack_r:p"), ("to", .text "s")]])]

theorem closed_over_declarations_usurped : ∃ g, generate (.mapping usurped) .standard = .ok g ∧
    g.diagram.graph.sameRank = ["rack_r", "rack_q"] ∧
    g.diagram.graph.edges.map (fun e => (e.source, e.target)) =
      [("rack_r_2", "\"rack_r:p\""), ("\"rack_r:p\"", "s")] ∧
    g.diagram.graph.allOrdering.map (fun e => (e.source, e.target)) =
      [("rack_r", "rack_r_2"), ("rack_r_2", "\"rack_r:p\""), ("rack_q", "s")] ∧
    g.diagram.graph.EndsDeclared ∧
    (∀ source target, .danglingEdge source target ∉ g.diagnostics) ∧
    ∃ es, g.diagram = (run es .blank).finish ∧
      g.diagram.graph.edges = es.filterMap Event.edge? ∧
      g.diagram.graph.allOrdering.Perm (es.filterMap Event.ordering?) := by
  have hresult : ((generate (.mapping usurped) .standard).toOption.map fun g =>
      (g.diagram.graph.sameRank, g.diagram.graph.edges.map (fun e => (e.source, e.target)),
        g.diagram.graph.allOrdering.map fun e => (e.source, e.target))) =
      some (["rack_r", "rack_q"], [("rack_r_2", "\"rack_r:p\""), ("\"rack_r:p\"", "s")],
        [("rack_r", "rack_r_2"), ("rack_r_2", "\"rack_r:p\""), ("rack_q", "s")]) := by
    decide +kernel
  obtain ⟨g, hg, hshown⟩ := exists_of_toOption_map hresult
  simp only [Prod.mk.injEq] at hshown
  exact ⟨g, hg, hshown.1, hshown.2.1, hshown.2.2, closed_over_declarations.2.2 _ _ g hg⟩

end InfraDiagram

import InfraDiagram.Proofs.Runs

/-!
# The node map is complete and unambiguous

Whatever is drawn, and however it is nested, a viewer finds every declared node behind exactly one
key, and no two nodes and no two clusters share an identity.

## Main definitions

- `Complete` — a node map that tells all nodes of a graph apart

## Main statements

- `complete_of_run_of_generate` — the node map of every canvas and of every result
-/

namespace InfraDiagram

open Dot

/-- A node map has one entry for each of the given declarations, and these are the declarations of
    the given nodes; neither nodes nor clusters share an identity. -/
structure Complete (m : NodeMap) (calls : List Call) (nodeIds clusterIds : List String) :
    Prop where
  /-- The entries are those of the declarations, each at its key or at a number of it. -/
  covers : Covers m calls
  keys : m.keys.Nodup
  /-- The nodes behind the entries are those of the graph. -/
  nodes : (m.entries.map fun entry => entry.2.graphNodeId).Perm nodeIds
  once : nodeIds.Nodup
  distinct : (nodeIds.map Id.canonical).Nodup
  distinctClusters : (clusterIds.map Id.canonical).Nodup
  prefixed : ∀ id ∈ clusterIds, ∃ rest, Id.canonical id = "cluster_" ++ rest

/-- The entries of declarations name the nodes that were declared. -/
theorem Covers.graphNodeIds_perm {m : NodeMap} {calls : List Call} (h : Covers m calls) :
    (m.entries.map fun entry => entry.2.graphNodeId).Perm (calls.map Prod.snd) := by
  obtain ⟨held, hperm, hheld⟩ := h
  refine (hperm.symm.map _).trans (.of_eq ?_)
  clear hperm
  induction hheld with
  | nil => rfl
  | cons hfirst _ ih =>
    rw [List.map_cons, List.map_cons, ih, congrArg NodeRef.graphNodeId hfirst.2]
    rfl

theorem Canvas.Accounts.complete {c : Canvas} {calls : List Call} (h : c.Accounts calls) :
    Complete c.nodeMap calls (c.allNodes.map (·.id)) c.clusterNames := by
  have hids : (c.allNodes.map (·.id)).Perm (calls.map Prod.snd) := by
    have hnodes := h.nodes.map Prod.snd
    rwa [List.map_map, List.map_map] at hnodes
  have hdistinct : ((c.allNodes.map (·.id)).map Id.canonical).Nodup := by
    refine (hids.map Id.canonical).nodup_iff.2 ?_
    rw [List.map_map, ← List.nodup_reverse]
    exact h.taken ▸ h.distinct
  exact {
    covers := h.entries
    keys := h.keys
    nodes := h.entries.graphNodeIds_perm.trans hids.symm
    once := hdistinct.of_map _
    distinct := hdistinct
    distinctClusters := h.clusters.nodup_iff.2 h.distinctClusters
    prefixed := fun id hid =>
      h.prefixed _ (h.clusters.mem_iff.1 (List.mem_map_of_mem hid)) }

/-- A finished diagram has the nodes and clusters of the canvas, none of them open. -/
theorem complete_finish (es : List Event) :
    Complete (run es .blank).finish.nodeMap (logOf es .blank).calls
      (run es .blank).finish.graph.declaredIds (run es .blank).finish.graph.clusterNames := by
  -- closing the open clusters is a run of its own, without declarations
  have haccounts := Canvas.accounts_run (es ++ (run es .blank).closings)
  rw [logOf_append, Canvas.logOf_closings, Log.append_empty, run_append] at haccounts
  have hcomplete := haccounts.complete
  have hscopes := (run es .blank).scopes_run_closings
  rw [Canvas.finish_eq]
  simpa [Canvas.allNodes, Canvas.clusterNames, hscopes, Graph.declaredIds] using hcomplete

/-- **The node map is complete and unambiguous.** After every sequence of steps, while clusters are
    open too, it has one entry for each declaration, and the entries stay in it from then on, at
    their keys or at numbers of them. The same holds of the result for every document. -/
theorem complete_of_run_of_generate :
    (∀ es later : List Event,
      Complete (run es .blank).nodeMap (logOf es .blank).calls
        ((run es .blank).allNodes.map (·.id)) (run es .blank).clusterNames ∧
      ∀ entry ∈ (run es .blank).nodeMap.entries, ∃ key, Canvas.HeldAt entry.1 key ∧
        (key, entry.2) ∈ (run (es ++ later) .blank).nodeMap.entries) ∧
    ∀ doc options g, generate doc options = .ok g →
      ∃ es, g.diagram = (run es .blank).finish ∧
        Complete g.nodeMap (logOf es .blank).calls g.diagram.graph.declaredIds
          g.diagram.graph.clusterNames := by
  refine ⟨fun es later => ⟨(Canvas.accounts_run es).complete, fun entry hentry => ?_⟩,
    fun doc options g h => ?_⟩
  · rw [run_append]
    exact Canvas.entries_run (Canvas.accounts_run es) later hentry
  · obtain ⟨m, w, es, l, -, hcourse⟩ := exists_course h
    obtain ⟨hdiagram, -, -⟩ := hcourse.steps_spec
    refine ⟨Course.steps w es, hdiagram, ?_⟩
    rw [Generated.nodeMap, hdiagram]
    exact complete_finish _

/-- Two devices of one id, and a third one whose id looks like a number of it. -/
def lookalikes : Value :=
  .mapping [("topology", .mapping [("devices", .list [.text "a", .text "a", .text "a_2"])])]

theorem complete_lookalikes : ∃ g, generate lookalikes .standard = .ok g ∧
    g.diagram.graph.declaredIds = ["a", "a_2", "a_2_2"] ∧
    ∃ es, g.diagram = (run es .blank).finish ∧
      Complete g.nodeMap (logOf es .blank).calls g.diagram.graph.declaredIds
        g.diagram.graph.clusterNames := by
  have hids : ((generate lookalikes .standard).toOption.map fun g =>
      g.diagram.graph.declaredIds) = some ["a", "a_2", "a_2_2"] := by decide +kernel
  cases hg : generate lookalikes .standard with
  | error e => simp [hg, Except.toOption] at hids
  | ok g =>
    refine ⟨g, rfl, ?_, complete_of_run_of_generate.2 lookalikes .standard g hg⟩
    simpa [hg, Except.toOption] using hids

end InfraDiagram

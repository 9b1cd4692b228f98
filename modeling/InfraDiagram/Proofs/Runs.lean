import InfraDiagram.Proofs.Documents
import InfraDiagram.Proofs.Wiring

/-!
# The course of a run

A run that succeeds draws the nodes of its scene first, then all connections at once, and finishes.
What the connections come to is settled by the groundwork alone.

## Main definitions

- `Groundwork` — a scene with its nodes drawn, and none of its connections
- `Groundwork.edges`, `Groundwork.problems` — what the connections come to
- `Course` — the groundwork and the steps behind a result

## Main statements

- `exists_course` — every result has a course
- `Course.steps_spec` — a result as the outcome of a sequence of admissible steps
-/

namespace InfraDiagram

open Dot

/-- The nodes of a scene as they were drawn: the places of its entities, and the canvas before the
    first connection. -/
structure Groundwork where
  scene : Scene
  places : List Placement
  canvas : Canvas

/-- The groundwork of a plan: its comments are written, then its nodes are drawn. -/
def Plan.groundwork (p : Plan) : Except StructureError Groundwork :=
  p.scene.map fun scene =>
    let drawn := scene.nodes (p.comments.forM comment Canvas.blank).2
    ⟨scene, drawn.1, drawn.2⟩

/-- The groundwork of a plan has the plan's scene, and the canvas on which it was drawn. -/
theorem Plan.groundwork_eq_ok {p : Plan} {w : Groundwork} (h : p.groundwork = .ok w) :
    p.scene = .ok w.scene ∧
      w.scene.nodes (p.comments.forM comment Canvas.blank).2 = (w.places, w.canvas) := by
  unfold groundwork at h
  cases hscene : p.scene with
  | error e =>
    rw [hscene] at h
    cases h
  | ok scene =>
    rw [hscene] at h
    cases h
    exact ⟨rfl, rfl⟩

namespace Groundwork

/-- The connections that are to be drawn, those of records before those of ports. -/
def connections (w : Groundwork) : List Connection :=
  w.scene.connections.connections

def edges (w : Groundwork) : List Edge :=
  w.connections.filterMap (·.edge? w.scene.resolver w.canvas)

def problems (w : Groundwork) : List Diagnostic :=
  w.scene.connections.problems ++ w.connections.flatMap (·.problems w.scene.resolver w.canvas)

theorem wire {w : Groundwork} (h : w.canvas.KnowsIds) :
    (connectAll w.scene.resolver w.scene.connections w.canvas).2 =
      w.canvas.wired w.edges w.problems :=
  connectAll_eq h w.scene.resolver w.scene.connections

theorem allowsEdge {w : Groundwork} (h : w.canvas.KnowsIds) :
    ∀ e ∈ w.edges, w.canvas.AllowsEdge e := by
  intro e he
  obtain ⟨conn, -, hconn⟩ := List.mem_filterMap.1 he
  exact Connection.allowsEdge h hconn

end Groundwork

/-- The diagram of a plan is its groundwork with the connections drawn. -/
theorem drawDocument_eq (kind : Kind) (m : Mapping) (options : RenderOptions) :
    drawDocument kind m options = (Plan.ofKind kind m options).groundwork.map fun w =>
      (connectAll w.scene.resolver w.scene.connections w.canvas).2.finish := by
  unfold drawDocument
  generalize Plan.ofKind kind m options = plan
  obtain ⟨comments, scene⟩ := plan
  cases scene with
  | error e => rfl
  | ok scene => rfl

/-- A plan that is carried out wires its groundwork. -/
theorem drawDocument_eq_ok {kind : Kind} {m : Mapping} {options : RenderOptions} {d : Diagram}
    (h : drawDocument kind m options = .ok d) :
    ∃ w, (Plan.ofKind kind m options).groundwork = .ok w ∧
      d = (connectAll w.scene.resolver w.scene.connections w.canvas).2.finish := by
  rw [drawDocument_eq] at h
  cases hw : (Plan.ofKind kind m options).groundwork with
  | error e =>
    rw [hw] at h
    cases h
  | ok w =>
    rw [hw] at h
    exact ⟨w, rfl, (Except.ok.inj h).symm⟩

/-- A document that cannot be drawn has no scene. -/
theorem scene_eq_error_of_generate {m : Mapping} {options : RenderOptions} {e : StructureError}
    (h : generate (.mapping m) options = .error e) :
    (Plan.ofKind (classifyMapping m) m options).scene = .error e := by
  simp only [generate, drawDocument_eq, Plan.groundwork] at h
  cases hscene : (Plan.ofKind (classifyMapping m) m options).scene with
  | error e' =>
    rw [hscene] at h
    cases h
    rfl
  | ok scene =>
    rw [hscene] at h
    cases h

/-- How a result comes about: `es` are the steps of the groundwork and `l` is their log, apart from
    warnings about the whole document. -/
structure Course (m : Mapping) (options : RenderOptions) (g : Generated) (w : Groundwork)
    (es : List Event) (l : Log) : Prop where
  kind : g.kind = classifyMapping m
  groundwork : (Plan.ofKind g.kind m options).groundwork = .ok w
  portrays : Portrays g.kind m w.scene
  canvas : run es .blank = w.canvas
  admits : Admits es .blank
  log : logOf es .blank = l ++ ⟨[], [], g.kind.warnings m⟩
  places : Places g.kind.linksPorts l w.places
  diagram : g.diagram = (w.canvas.wired w.edges w.problems).finish
  dot : g.dot = g.diagram.graph.toDot options

theorem Canvas.knowsIds_run (es : List Event) : (run es blank).KnowsIds :=
  (accounts_run es).knowsIds

/-- The groundwork of a plan is drawn by admissible steps. -/
theorem exists_run_of_groundwork {kind : Kind} {m : Mapping} {options : RenderOptions}
    {w : Groundwork} (h : (Plan.ofKind kind m options).groundwork = .ok w) :
    Portrays kind m w.scene ∧ ∃ es l, run es .blank = w.canvas ∧ Admits es .blank ∧
      logOf es .blank = l ++ ⟨[], [], kind.warnings m⟩ ∧ Places kind.linksPorts l w.places := by
  obtain ⟨hscene, hdrawn⟩ := Plan.groundwork_eq_ok h
  have hportrays := portrays_of_scene hscene
  have hcomments : Draws [] ((Plan.ofKind kind m options).comments.forM comment)
      fun l _ => l = .empty := .forM_empty fun text _ => .comment text
  -- the comments come first and leave no log
  obtain ⟨es₀, hrun₀, hadmits₀, hlog₀⟩ := hcomments .blank (by simp)
  obtain ⟨es₁, hrun₁, hadmits₁, l, hplaces, hlog₁⟩ := hportrays.nodes (run es₀ .blank) (by simp)
  rw [← hrun₀, hdrawn] at hrun₁ hplaces
  refine ⟨hportrays, es₀ ++ es₁, l, ?_, admits_append.2 ⟨hadmits₀, hadmits₁⟩, ?_, hplaces⟩
  · rw [run_append, ← hrun₀]
    exact hrun₁.symm
  · rw [logOf_append, hlog₀, Log.empty_append, hlog₁]

/-- Every result has a course. -/
theorem exists_course {doc : Value} {options : RenderOptions} {g : Generated}
    (h : generate doc options = .ok g) :
    ∃ m w es l, doc = .mapping m ∧ Course m options g w es l := by
  cases doc with
  | mapping m =>
    simp only [generate] at h
    cases hdraw : drawDocument (classifyMapping m) m options with
    | error e => rw [hdraw] at h; cases h
    | ok d =>
      rw [hdraw] at h
      cases h
      obtain ⟨w, hw, rfl⟩ := drawDocument_eq_ok hdraw
      obtain ⟨hportrays, es, l, hrun, hadmits, hlog, hplaces⟩ := exists_run_of_groundwork hw
      exact ⟨m, w, es, l, rfl, {
        kind := rfl
        groundwork := hw
        portrays := hportrays
        canvas := hrun
        admits := hadmits
        log := hlog
        places := hplaces
        diagram := congrArg Canvas.finish (Groundwork.wire (hrun ▸ Canvas.knowsIds_run es))
        dot := rfl }⟩
  | _ => cases h

namespace Course

variable {m : Mapping} {options : RenderOptions} {g : Generated} {w : Groundwork}
  {es : List Event} {l : Log}

/-- The steps of a whole run: the nodes, the problems, and the visible edges. -/
def steps (w : Groundwork) (es : List Event) : List Event :=
  es ++ (Canvas.reports w.problems ++ Canvas.strokes w.edges)

theorem accounts (h : Course m options g w es l) : w.canvas.Accounts (logOf es .blank).calls :=
  h.canvas ▸ Canvas.accounts_run es

theorem edges (h : Course m options g w es l) :
    g.diagram.graph.edges = w.canvas.graph.edges ++ w.edges := by
  rw [h.diagram, Canvas.edges_finish]
  rfl

theorem nodeMap (h : Course m options g w es l) : g.nodeMap = w.canvas.nodeMap := by
  rw [Generated.nodeMap, h.diagram, Canvas.nodeMap_finish]
  rfl

theorem diagnostics (h : Course m options g w es l) :
    g.diagnostics = w.canvas.diagnostics ++ w.problems := by
  rw [Generated.diagnostics, h.diagram, Canvas.diagnostics_finish]
  rfl

/-- The nodes of a result are the declared ones. -/
theorem nodes (h : Course m options g w es l) :
    (g.diagram.graph.allNodes.map fun n => (n.key, n.id)).Perm
      ((logOf es .blank).calls.map fun call => (call.1.key, call.2)) := by
  have hnodes : g.diagram.graph.allNodes.Perm w.canvas.allNodes := by
    rw [h.diagram]
    exact Canvas.allNodes_finish _
  exact (hnodes.map _).trans h.accounts.nodes

/-- The nodes before the first connection have identifiers of their own. -/
theorem nodup_nodeIds (h : Course m options g w es l) :
    (w.canvas.allNodes.map (·.id)).Nodup := by
  have hids := (h.accounts.nodes.map Prod.snd).nodup_iff
  rw [List.map_map, List.map_map] at hids
  exact hids.2 h.accounts.nodup_ids

/-- Where every cluster was closed, the result is the groundwork with the connections. -/
theorem diagram_eq (h : Course m options g w es l) (hscopes : w.canvas.scopes = []) :
    g.diagram = ⟨{ w.canvas.graph with edges := w.canvas.graph.edges ++ w.edges },
      w.canvas.nodeMap, w.canvas.diagnostics ++ w.problems⟩ := by
  rw [h.diagram, Canvas.finish_wired, Canvas.finish_of_scopes hscopes]

theorem nodup_ids (h : Course m options g w es l) (hscopes : w.canvas.scopes = []) :
    (w.canvas.graph.allNodes.map (·.id)).Nodup := by
  have hids := h.nodup_nodeIds
  rwa [Canvas.allNodes, hscopes, List.flatMap_nil, List.append_nil] at hids

/-- Only the ports of server details declare connections. -/
theorem portLinks_eq_nil (h : Course m options g w es l) (hkind : g.kind ≠ .serverDetails) :
    w.scene.portLinks = [] := by
  rcases h.portrays.portLinks with hnone | ⟨hservers, -⟩
  · exact hnone
  · exact absurd hservers hkind

theorem steps_spec (h : Course m options g w es l) :
    g.diagram = (run (steps w es) .blank).finish ∧ Admits (steps w es) .blank ∧
      logOf (steps w es) .blank = logOf es .blank ++ ⟨[], w.edges, w.problems⟩ := by
  obtain ⟨hrun, hadmits, hlog⟩ :=
    Canvas.wired_eq_run (Groundwork.allowsEdge h.accounts.knowsIds) w.problems
  rw [← h.canvas] at hadmits hlog
  refine ⟨?_, admits_append.2 ⟨h.admits, hadmits⟩, ?_⟩
  · rw [h.diagram, ← hrun, ← h.canvas, ← run_append]
    rfl
  · rw [steps, logOf_append, hlog]

end Course

end InfraDiagram

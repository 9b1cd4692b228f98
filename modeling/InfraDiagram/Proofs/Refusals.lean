import InfraDiagram.Proofs.Runs

/-!
# Refused documents

A document is read before it is drawn, so a refusal comes before the first node. On whatever canvas
a plan is carried out, a refusal leaves the nodes, the clusters that are open, the node map, the
identifiers and the problems as they were. Only the heading of a topology is written too early.

## Main definitions

- `Canvas.commented` — a canvas with comments and nothing else added
- `Kind.heading?` — the comment that is written before the document is known to be drawable

## Main statements

- `Plan.run_eq` — what carrying out a plan comes to
- `commented_of_refused` — a refusal changes nothing but the heading
- `not_untouched_titled` — a refusal that leaves a comment behind
-/

namespace InfraDiagram

open Dot

-- ════════════════════════════════════════════════════════════════════════
-- Comments
-- ════════════════════════════════════════════════════════════════════════

/-- The canvas with further comments. -/
def Canvas.commented (c : Canvas) (texts : List String) : Canvas :=
  { c with graph := { c.graph with
      comments := c.graph.comments ++ texts.map Text.withoutControls } }

namespace Canvas

@[simp]
theorem commented_nil (c : Canvas) : c.commented [] = c := by
  simp [commented]

theorem commented_cons (c : Canvas) (text : String) (texts : List String) :
    c.commented (text :: texts) = (c.commented [text]).commented texts := by
  simp [commented]

/-- Comments are only ever added, so a canvas stays as it is exactly if there are none. -/
theorem commented_eq_self_iff {c : Canvas} {texts : List String} :
    c.commented texts = c ↔ texts = [] := by
  constructor
  · intro h
    have hcomments : c.graph.comments ++ texts.map Text.withoutControls = c.graph.comments :=
      congrArg (·.graph.comments) h
    exact List.map_eq_nil_iff.1 (List.append_right_eq_self.1 hcomments)
  · rintro rfl
    exact c.commented_nil

end Canvas

theorem forM_comment (texts : List String) (c : Canvas) :
    (texts.forM comment c).2 = c.commented texts := by
  induction texts generalizing c with
  | nil => exact c.commented_nil.symm
  | cons text texts ih => exact (ih (c.commented [text])).trans (c.commented_cons text texts).symm

-- ════════════════════════════════════════════════════════════════════════
-- Carrying out a plan
-- ════════════════════════════════════════════════════════════════════════

/-- A plan writes its comments; then it draws its scene, or stops. -/
theorem Plan.run_eq (p : Plan) (c : Canvas) :
    p.run c = match p.scene with
      | .ok scene => (.ok (), (scene.draw (c.commented p.comments)).2)
      | .error e => (.error e, c.commented p.comments) := by
  rw [← forM_comment]
  obtain ⟨comments, scene⟩ := p
  cases scene <;> rfl

/-- A refusal leaves the comments of the plan behind. -/
theorem Plan.refused_of_run {p : Plan} {c c' : Canvas} {e : StructureError}
    (h : p.run c = (.error e, c')) : p.scene = .error e ∧ c' = c.commented p.comments := by
  rw [run_eq] at h
  cases hscene : p.scene with
  | ok scene =>
    rw [hscene] at h
    cases h
  | error e' =>
    rw [hscene] at h
    cases h
    exact ⟨rfl, rfl⟩

/-- The comment that stands above the diagram of a document of a kind; of the documents that may
    be refused, only topologies with a name have one. -/
def Kind.heading? (kind : Kind) (doc : Mapping) : Option String :=
  match kind with
  | .topology =>
    (((doc.get? "topology").bind Value.mapping?).bind fun topology =>
      Field.text topology "name").map fun name => "topology: " ++ name
  | _ => none

/-- Whatever is refused has no comment but its heading. -/
theorem comments_of_refused {kind : Kind} {doc : Mapping} {options : RenderOptions}
    {e : StructureError} (h : (Plan.ofKind kind doc options).scene = .error e) :
    (Plan.ofKind kind doc options).comments = (kind.heading? doc).toList := by
  cases kind with
  | topology =>
    simp only [Plan.ofKind, Plan.topology, Kind.heading?]
    -- a topology that is no mapping is refused before it is asked for its name
    rcases hvalue : doc.get? "topology" with _ | (_ | _ | _ | _ | _ | topology)
    case some.mapping => exact Option.toList_map.symm
    all_goals rfl
  | device =>
    simp only [Plan.ofKind, Plan.device]
    split <;> rfl
  | unknown => cases h
  | _ => rfl

-- ════════════════════════════════════════════════════════════════════════
-- Refusals
-- ════════════════════════════════════════════════════════════════════════

/-- **A refusal leaves the canvas as it was, but for the heading.** If a document is refused, then
    on whatever canvas this happens nothing was drawn, registered or reported: the canvas is the
    one before, with the heading of a topology among its comments. So it is exactly as it was if
    and only if there is no such heading. -/
theorem commented_of_refused {kind : Kind} {doc : Mapping} {options : RenderOptions}
    {c c' : Canvas} {e : StructureError}
    (h : (Plan.ofKind kind doc options).run.run c = (.error e, c')) :
    c' = c.commented (kind.heading? doc).toList ∧ (c' = c ↔ kind.heading? doc = none) := by
  obtain ⟨hscene, rfl⟩ := Plan.refused_of_run h
  rw [comments_of_refused hscene, Canvas.commented_eq_self_iff, Option.toList_eq_nil_iff]
  exact ⟨rfl, Iff.rfl⟩

/-- A canvas in the middle of its work: a node is declared, and a frame is open around another. -/
def halfDrawn : Canvas :=
  run [.node ⟨"a", .device, "a", ["a"], Style.device "switch"⟩,
    .opening "zone_z" (Style.cluster none),
    .node ⟨"a", .device, "a", ["a"], Style.device "switch"⟩] .blank

/-- An intent whose goals are no list. -/
def aimless : Mapping :=
  [("intent", .mapping [("name", .text "backup"), ("devices", .list [.text "a", .text "b"]),
    ("goals", .text "stay up")])]

theorem commented_aimless : ∃ e, (Plan.ofKind .intent aimless .standard).run.run halfDrawn =
      (.error e, halfDrawn) ∧ e.message =
      "structurally invalid document at $.intent.goals: expected list, found string" := by
  obtain ⟨e, hscene, hmessage⟩ : ∃ e, (Plan.ofKind .intent aimless .standard).scene = .error e ∧
      e.message =
        "structurally invalid document at $.intent.goals: expected list, found string" :=
    ⟨_, rfl, by decide +kernel⟩
  have hrun : (Plan.ofKind .intent aimless .standard).run.run halfDrawn =
      (.error e, halfDrawn.commented (Plan.ofKind .intent aimless .standard).comments) := by
    change Plan.run _ _ = _
    rw [Plan.run_eq, hscene]
  have hsame := (commented_of_refused hrun).2.2 rfl
  exact ⟨e, hsame ▸ hrun, hmessage⟩

/-- A topology with a name, whose devices are no list. -/
def titled : Mapping :=
  [("topology", .mapping [("name", .text "x"), ("devices", .number (.int 5))])]

/-- The topology is refused, but its name is left in the graph. -/
theorem not_untouched_titled : ∃ e c', (Plan.ofKind .topology titled .standard).run.run .blank =
      (.error e, c') ∧ c'.graph.comments = ["topology: x"] ∧ c' ≠ .blank := by
  refine ⟨_, Canvas.blank.commented ["topology: x"], rfl, by decide +kernel, fun h => ?_⟩
  exact absurd (Canvas.commented_eq_self_iff.1 h) (List.cons_ne_nil _ _)

end InfraDiagram

import InfraDiagram.Proofs.Attributes
import InfraDiagram.Proofs.MapKeys

/-!
# Runs of drawing steps

Whatever is drawn is drawn by a sequence of single steps. A cluster is two of them, its opening
and its closing, so every state while clusters are open is the state after some sequence too.

## Main definitions

- `Event`, `Event.apply` — the steps
- `run` — the canvas after a sequence of steps
- `Log`, `logOf` — the declarations with their identifiers, the visible edges and the warnings of a
  sequence
- `Admits` — sequences whose attributes print well and whose edges have declared ends

## Main statements

- `Event.books_apply` — everything that a step does apart from the tree
- `declared_run`, `nodeMap_run`, `edges_run`, `diagnostics_run` — a canvas after a sequence of
  steps by its log
- `Canvas.finish_eq` — finishing closes the open clusters
-/

namespace InfraDiagram

open Dot

/-- One step of drawing. -/
inductive Event where
  | node (d : Declaration)
  | opening (key : String) (attrs : Attrs)
  | closing
  | edge (source target : String) (attrs : Attrs)
  | ordering (source target : String)
  | sameRank (ids : List String)
  | comment (text : String)
  | warn (d : Diagnostic)

/-- A declaration with the identifier it was given. -/
abbrev Call := Declaration × String

/-- What a sequence of steps leaves behind in order. -/
structure Log where
  calls : List Call
  edges : List Edge
  warnings : List Diagnostic

namespace Log

def empty : Log := ⟨[], [], []⟩

def append (a b : Log) : Log :=
  ⟨a.calls ++ b.calls, a.edges ++ b.edges, a.warnings ++ b.warnings⟩

instance : Append Log := ⟨append⟩

def ids (l : Log) : List String :=
  l.calls.map Prod.snd

theorem mk_append_mk (calls calls' : List Call) (edges edges' : List Edge)
    (warnings warnings' : List Diagnostic) :
    Log.mk calls edges warnings ++ Log.mk calls' edges' warnings' =
      ⟨calls ++ calls', edges ++ edges', warnings ++ warnings'⟩ := rfl

@[simp]
theorem calls_append (a b : Log) : (a ++ b).calls = a.calls ++ b.calls := rfl

@[simp]
theorem edges_append (a b : Log) : (a ++ b).edges = a.edges ++ b.edges := rfl

@[simp]
theorem warnings_append (a b : Log) : (a ++ b).warnings = a.warnings ++ b.warnings := rfl

@[simp]
theorem ids_append (a b : Log) : (a ++ b).ids = a.ids ++ b.ids :=
  List.map_append

@[simp]
theorem empty_append (l : Log) : empty ++ l = l := rfl

@[simp]
theorem append_empty (l : Log) : l ++ empty = l := by
  obtain ⟨calls, edges, warnings⟩ := l
  change Log.mk (calls ++ []) (edges ++ []) (warnings ++ []) = _
  simp only [List.append_nil]

theorem append_assoc (a b c : Log) : a ++ b ++ c = a ++ (b ++ c) := by
  change Log.mk (_ ++ _ ++ _) (_ ++ _ ++ _) (_ ++ _ ++ _) = Log.mk _ _ _
  simp only [List.append_assoc]
  rfl

end Log

namespace Event

def apply (c : Canvas) : Event → Canvas
  | node d => (declare d c).2
  | opening key attrs => c.openCluster key attrs
  | closing => c.closeCluster
  | edge source target attrs => (InfraDiagram.edge source target attrs c).2
  | ordering source target => (orderingEdge source target c).2
  | sameRank ids => (InfraDiagram.sameRank ids c).2
  | comment text => (InfraDiagram.comment text c).2
  | warn d => (InfraDiagram.warn d c).2

def log (c : Canvas) : Event → Log
  | node d => ⟨[(d, (declare d c).1)], [], []⟩
  | edge source target attrs => ⟨[], [⟨source, target, attrs⟩], []⟩
  | warn d => ⟨[], [], [d]⟩
  | _ => .empty

/-- A step whose attributes print well. The ends of an edge are declared, and only ordering edges
    are invisible. -/
def Admissible (c : Canvas) : Event → Prop
  | node d => d.attrs.IsPrintable
  | opening _ attrs => attrs.IsPrintable
  | edge source target attrs =>
    source ∈ c.declared ∧ target ∈ c.declared ∧ attrs.IsPrintable ∧ attrs.isInvisible = false
  | ordering source target => source ∈ c.declared ∧ target ∈ c.declared
  | _ => True

end Event

def run (es : List Event) (c : Canvas) : Canvas :=
  es.foldl Event.apply c

def logOf : List Event → Canvas → Log
  | [], _ => .empty
  | e :: es, c => e.log c ++ logOf es (e.apply c)

/-- Every step is admissible when it is made. -/
def Admits : List Event → Canvas → Prop
  | [], _ => True
  | e :: es, c => e.Admissible c ∧ Admits es (e.apply c)

@[simp]
theorem run_nil (c : Canvas) : run [] c = c := rfl

@[simp]
theorem run_cons (e : Event) (es : List Event) (c : Canvas) :
    run (e :: es) c = run es (e.apply c) := rfl

theorem run_append (es es' : List Event) (c : Canvas) :
    run (es ++ es') c = run es' (run es c) :=
  List.foldl_append

theorem logOf_append (es es' : List Event) (c : Canvas) :
    logOf (es ++ es') c = logOf es c ++ logOf es' (run es c) := by
  induction es generalizing c with
  | nil => rfl
  | cons e es ih =>
    simp only [List.cons_append, logOf, run_cons, ih, Log.append_assoc]

theorem admits_append {es es' : List Event} {c : Canvas} :
    Admits (es ++ es') c ↔ Admits es c ∧ Admits es' (run es c) := by
  induction es generalizing c with
  | nil => simp [Admits]
  | cons e es ih => simp only [List.cons_append, Admits, run_cons, ih, and_assoc]

-- ════════════════════════════════════════════════════════════════════════
-- The tree and the rest
-- ════════════════════════════════════════════════════════════════════════

/-- What a canvas keeps besides its tree of nodes, clusters and ordering edges. -/
structure Books where
  comments : List String
  sameRank : List String
  edges : List Edge
  nodeIds : IdPool
  clusterIds : IdPool
  nodeMap : NodeMap
  devices : List (String × String)
  declared : List String
  diagnostics : List Diagnostic

namespace Canvas

def books (c : Canvas) : Books where
  comments := c.graph.comments
  sameRank := c.graph.sameRank
  edges := c.graph.edges
  nodeIds := c.nodeIds
  clusterIds := c.clusterIds
  nodeMap := c.nodeMap
  devices := c.devices
  declared := c.declared
  diagnostics := c.diagnostics

theorem books_placeNode (c : Canvas) (n : Node) : (c.placeNode n).books = c.books := by
  unfold placeNode
  split <;> rfl

theorem books_placeOrdering (c : Canvas) (e : Edge) : (c.placeOrdering e).books = c.books := by
  unfold placeOrdering
  split <;> rfl

theorem books_placeCluster (c : Canvas) (closed : Cluster) :
    (c.placeCluster closed).books = c.books := by
  unfold placeCluster
  split <;> rfl

theorem books_closeCluster (c : Canvas) : c.closeCluster.books = c.books := by
  unfold closeCluster
  split
  · exact books_placeCluster ..
  · rfl

/-- The diagnostics of a declaration: its identifier may have been taken. -/
def collisionOf (c : Canvas) (d : Declaration) : List Diagnostic :=
  if (c.nodeIds.choose d.key).2 then
    [.identifierCollision d.key (Id.ofName d.key) (c.nodeIds.choose d.key).1]
  else []

end Canvas

/-- The books after a step. -/
def Event.write (c : Canvas) : Event → Books
  | node d =>
    { c.books with
      nodeIds := (c.nodeIds.allocate d.key).2
      nodeMap := Canvas.enter c.nodeMap d.key (Canvas.refOf d (c.declareNode d).1)
      devices :=
        if d.entity.isDevice && (c.devices.lookup d.key).isNone then
          c.devices ++ [(d.key, (c.declareNode d).1)]
        else c.devices
      declared := (c.declareNode d).1 :: c.declared
      diagnostics := c.diagnostics ++ c.collisionOf d }
  | opening key _ =>
    { c.books with clusterIds := (c.clusterIds.allocate ("cluster_" ++ key)).2 }
  | closing => c.books
  | edge source target attrs =>
    if source ∈ c.declared ∧ target ∈ c.declared then
      { c.books with edges := c.graph.edges ++ [⟨source, target, attrs⟩] }
    else { c.books with diagnostics := c.diagnostics ++ [.danglingEdge source target] }
  | ordering source target =>
    if source ∈ c.declared ∧ target ∈ c.declared then c.books
    else { c.books with diagnostics := c.diagnostics ++ [.danglingEdge source target] }
  | sameRank ids => { c.books with sameRank := (c.addSameRank ids).graph.sameRank }
  | comment text => { c.books with comments := c.graph.comments ++ [Text.withoutControls text] }
  | warn d => { c.books with diagnostics := c.diagnostics ++ [d] }

namespace Canvas

/-- A declaration gets the next identifier of the pool. -/
theorem declareNode_fst (c : Canvas) (d : Declaration) :
    (c.declareNode d).1 = (c.nodeIds.choose d.key).1 := rfl

/-- A declaration is registered, and its node is put into the tree. -/
theorem declareNode_snd (c : Canvas) (d : Declaration) :
    (c.declareNode d).2 =
      (c.register d).2.placeNode ⟨(c.declareNode d).1, d.key, nodeAttrs d⟩ := rfl

/-- What a declaration writes into the books. -/
theorem books_declareNode (c : Canvas) (d : Declaration) :
    (c.declareNode d).2.books = Event.write c (.node d) := by
  rw [declareNode_snd, books_placeNode]
  -- only whether the identifier is numbered decides about the diagnostic
  rcases hchoose : c.nodeIds.choose d.key with ⟨id, numbered⟩
  simp only [Event.write, register, books, collisionOf, IdPool.allocate_fst, declareNode_fst,
    hchoose]
  cases numbered with
  | false => rw [if_neg Bool.false_ne_true, if_neg Bool.false_ne_true, List.append_nil]
  | true => rfl

end Canvas

theorem edge_apply (source target : String) (attrs : Attrs) (c : Canvas) :
    (edge source target attrs c).2 =
      if source ∈ c.declared ∧ target ∈ c.declared then
        { c with graph := { c.graph with edges := c.graph.edges ++ [⟨source, target, attrs⟩] } }
      else c.report (.danglingEdge source target) := by
  change (if c.bothDeclared source target = true then _ else _) = _
  simp only [Canvas.bothDeclared, Bool.and_eq_true, List.contains_eq_mem, decide_eq_true_eq]

theorem orderingEdge_apply (source target : String) (c : Canvas) :
    (orderingEdge source target c).2 =
      if source ∈ c.declared ∧ target ∈ c.declared then
        c.placeOrdering ⟨source, target, Attrs.empty.raw "style" "invis"⟩
      else c.report (.danglingEdge source target) := by
  change (if c.bothDeclared source target = true then _ else _) = _
  simp only [Canvas.bothDeclared, Bool.and_eq_true, List.contains_eq_mem, decide_eq_true_eq]

/-- Everything that a step can do apart from the tree. -/
theorem Event.books_apply (c : Canvas) (e : Event) : (e.apply c).books = e.write c := by
  cases e with
  | node d => exact c.books_declareNode d
  | closing => exact c.books_closeCluster
  | edge source target attrs =>
    simp only [apply, write, edge_apply]
    split_ifs <;> rfl
  | ordering source target =>
    simp only [apply, write, orderingEdge_apply]
    split_ifs
    · exact c.books_placeOrdering _
    · rfl
  | opening | sameRank | comment | warn => rfl

-- ════════════════════════════════════════════════════════════════════════
-- What a run writes
-- ════════════════════════════════════════════════════════════════════════

/-- A step declares what it logs. -/
theorem Event.declared_apply (c : Canvas) (e : Event) :
    (e.apply c).declared = (e.log c).ids.reverse ++ c.declared := by
  refine (congrArg Books.declared (e.books_apply c)).trans ?_
  cases e with
  | edge | ordering =>
    rw [write]
    split_ifs <;> rfl
  | _ => rfl

theorem declared_run (es : List Event) (c : Canvas) :
    (run es c).declared = (logOf es c).ids.reverse ++ c.declared := by
  induction es generalizing c with
  | nil => rfl
  | cons e es ih =>
    rw [run_cons, ih, e.declared_apply, logOf, Log.ids_append, List.reverse_append,
      List.append_assoc]

theorem mem_declared_run {es : List Event} {c : Canvas} {id : String} :
    id ∈ (run es c).declared ↔ id ∈ (logOf es c).ids ∨ id ∈ c.declared := by
  rw [declared_run, List.mem_append, List.mem_reverse]

/-- The node map with the entries of declarations, in their order. -/
def enterAll (m : NodeMap) (calls : List Call) : NodeMap :=
  calls.foldl (fun m call => Canvas.enter m call.1.key (Canvas.refOf call.1 call.2)) m

/-- A step enters the declaration it logs into the node map. -/
theorem Event.nodeMap_apply (c : Canvas) (e : Event) :
    (e.apply c).nodeMap = enterAll c.nodeMap (e.log c).calls := by
  refine (congrArg Books.nodeMap (e.books_apply c)).trans ?_
  cases e with
  | edge | ordering =>
    rw [write]
    split_ifs <;> rfl
  | _ => rfl

theorem nodeMap_run (es : List Event) (c : Canvas) :
    (run es c).nodeMap = enterAll c.nodeMap (logOf es c).calls := by
  induction es generalizing c with
  | nil => rfl
  | cons e es ih =>
    rw [run_cons, ih, e.nodeMap_apply, logOf, Log.calls_append]
    exact List.foldl_append.symm

/-- An admissible step draws the visible edge it logs. -/
theorem Event.edges_apply {c : Canvas} {e : Event} (h : e.Admissible c) :
    (e.apply c).graph.edges = c.graph.edges ++ (e.log c).edges := by
  refine (congrArg Books.edges (e.books_apply c)).trans ?_
  cases e with
  | edge source target attrs => rw [write, if_pos ⟨h.1, h.2.1⟩, log]
  | ordering source target =>
    rw [write, if_pos ⟨h.1, h.2⟩]
    exact (List.append_nil _).symm
  | _ => exact (List.append_nil _).symm

theorem edges_run {es : List Event} {c : Canvas} (h : Admits es c) :
    (run es c).graph.edges = c.graph.edges ++ (logOf es c).edges := by
  induction es generalizing c with
  | nil => exact (List.append_nil _).symm
  | cons e es ih =>
    rw [run_cons, ih h.2, Event.edges_apply h.1, logOf, Log.edges_append, List.append_assoc]

/-- An identifier that was taken already. -/
def Diagnostic.IsCollision (d : Diagnostic) : Prop :=
  ∃ key base assigned, d = .identifierCollision key base assigned

/-- The diagnostics that a run adds: its warnings in order, and collisions in between. -/
inductive Reported : List Diagnostic → List Diagnostic → Prop where
  | nil : Reported [] []
  | warning {ws ds : List Diagnostic} (d : Diagnostic) (h : Reported ws ds) :
      Reported (d :: ws) (d :: ds)
  | collision {ws ds : List Diagnostic} {d : Diagnostic} (hd : d.IsCollision)
      (h : Reported ws ds) : Reported ws (d :: ds)

theorem Reported.append {ws ws' ds ds' : List Diagnostic} (h : Reported ws ds)
    (h' : Reported ws' ds') : Reported (ws ++ ws') (ds ++ ds') := by
  induction h with
  | nil => exact h'
  | warning d _ ih => exact ih.warning d
  | collision hd _ ih => exact ih.collision hd

theorem Reported.mem {ws ds : List Diagnostic} (h : Reported ws ds) {d : Diagnostic}
    (hd : d ∈ ds) : d.IsCollision ∨ d ∈ ws := by
  induction h with
  | nil => simp at hd
  | warning e _ ih =>
    rcases List.mem_cons.1 hd with rfl | hd
    · exact .inr (by simp)
    · exact (ih hd).imp_right fun hmem => by simp [hmem]
  | collision hcollision _ ih =>
    rcases List.mem_cons.1 hd with rfl | hd
    · exact .inl hcollision
    · exact ih hd

theorem Event.diagnostics_apply {c : Canvas} {e : Event} (h : e.Admissible c) :
    ∃ ds, (e.apply c).diagnostics = c.diagnostics ++ ds ∧ Reported (e.log c).warnings ds := by
  have hwrite : (e.apply c).diagnostics = (e.write c).diagnostics :=
    congrArg Books.diagnostics (e.books_apply c)
  rw [hwrite]
  cases e with
  | node d =>
    refine ⟨c.collisionOf d, rfl, ?_⟩
    unfold Canvas.collisionOf
    split_ifs
    · exact .collision ⟨_, _, _, rfl⟩ .nil
    · exact .nil
  | edge source target attrs =>
    rw [write, if_pos ⟨h.1, h.2.1⟩]
    exact ⟨[], (List.append_nil _).symm, .nil⟩
  | ordering source target =>
    rw [write, if_pos ⟨h.1, h.2⟩]
    exact ⟨[], (List.append_nil _).symm, .nil⟩
  | warn d => exact ⟨[d], rfl, .warning d .nil⟩
  | _ => exact ⟨[], (List.append_nil _).symm, .nil⟩

theorem diagnostics_run {es : List Event} {c : Canvas} (h : Admits es c) :
    ∃ ds, (run es c).diagnostics = c.diagnostics ++ ds ∧ Reported (logOf es c).warnings ds := by
  induction es generalizing c with
  | nil => exact ⟨[], (List.append_nil _).symm, .nil⟩
  | cons e es ih =>
    obtain ⟨ds, hds, hlog⟩ := e.diagnostics_apply h.1
    obtain ⟨ds', hds', hlog'⟩ := ih h.2
    exact ⟨ds ++ ds', by rw [run_cons, hds', hds, List.append_assoc], hlog.append hlog'⟩

-- ════════════════════════════════════════════════════════════════════════
-- Finishing
-- ════════════════════════════════════════════════════════════════════════

namespace Canvas

theorem length_scopes_closeCluster (c : Canvas) :
    c.closeCluster.scopes.length = c.scopes.length - 1 := by
  obtain ⟨graph, scopes, nodeIds, clusterIds, nodeMap, devices, declared, diagnostics⟩ := c
  cases scopes with
  | nil => rfl
  | cons inner outer => cases outer <;> rfl

/-- The steps that close all open clusters. -/
def closings (c : Canvas) : List Event :=
  List.replicate c.scopes.length .closing

theorem foldl_closeCluster (ns : List Nat) (c : Canvas) :
    ns.foldl (fun c _ => c.closeCluster) c = run (List.replicate ns.length .closing) c := by
  induction ns generalizing c with
  | nil => rfl
  | cons n ns ih => exact ih c.closeCluster

theorem scopes_run_closings (c : Canvas) : (run c.closings c).scopes = [] := by
  rw [closings]
  generalize hn : c.scopes.length = n
  induction n generalizing c with
  | zero => exact List.length_eq_zero_iff.1 hn
  | succ n ih =>
    exact ih c.closeCluster (by rw [length_scopes_closeCluster, hn, Nat.add_sub_cancel])

/-- Finishing closes the open clusters. -/
theorem finish_eq (c : Canvas) :
    c.finish = ⟨(run c.closings c).graph, (run c.closings c).nodeMap,
      (run c.closings c).diagnostics⟩ := by
  simp only [finish, foldl_closeCluster, List.length_range, closings]

/-- What closing a single cluster preserves holds after all of them are closed. -/
theorem run_closings {P : Canvas → Prop} (hclose : ∀ c, P c → P c.closeCluster) {c : Canvas}
    (h : P c) : P (run c.closings c) := by
  rw [closings]
  generalize c.scopes.length = n
  induction n generalizing c with
  | zero => exact h
  | succ n ih => exact ih (hclose c h)

theorem books_run_closings (c : Canvas) : (run c.closings c).books = c.books :=
  run_closings (P := fun c' => c'.books = c.books)
    (fun c' h => c'.books_closeCluster.trans h) rfl

theorem edges_finish (c : Canvas) : c.finish.graph.edges = c.graph.edges := by
  rw [finish_eq]
  exact congrArg Books.edges c.books_run_closings

theorem nodeMap_finish (c : Canvas) : c.finish.nodeMap = c.nodeMap := by
  rw [finish_eq]
  exact congrArg Books.nodeMap c.books_run_closings

theorem diagnostics_finish (c : Canvas) : c.finish.diagnostics = c.diagnostics := by
  rw [finish_eq]
  exact congrArg Books.diagnostics c.books_run_closings

theorem logOf_closings (c : Canvas) : logOf c.closings c = .empty := by
  rw [closings]
  generalize c.scopes.length = n
  induction n generalizing c with
  | zero => rfl
  | succ n ih => exact ih c.closeCluster

theorem admits_closings (c : Canvas) : Admits c.closings c := by
  rw [closings]
  generalize c.scopes.length = n
  induction n generalizing c with
  | zero => trivial
  | succ n ih => exact ⟨trivial, ih c.closeCluster⟩

end Canvas

end InfraDiagram

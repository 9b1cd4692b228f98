import InfraDiagram.Drawing.Plan
import InfraDiagram.Proofs.Bookkeeping

/-!
# Wiring

Once all nodes are drawn, each connection becomes one edge, or one problem for each of its ends
that names no node. What it becomes does not depend on the connections around it.

## Main definitions

- `Connection.edge?`, `Connection.problems` — what a connection becomes on a canvas
- `Canvas.wired` — a canvas with more visible edges and diagnostics
- `Canvas.KnowsIds` — a canvas that only ever finds declared nodes

## Main statements

- `connectAll_eq` — the canvas after all connections
- `Canvas.wired_eq_run` — the same canvas after a sequence of single steps
-/

namespace InfraDiagram

open Dot

/-- The problem with an end that names no node. -/
def Endpoint.problems (e : Endpoint) (resolver : Resolver) (c : Canvas) (context : String) :
    List Diagnostic :=
  match e.place resolver c with
  | .ok _ => []
  | .error reason => [.unresolvedEndpoint e.device reason.reason context]

namespace Connection

/-- The edge of a connection, if both of its ends name nodes. -/
def edge? (conn : Connection) (resolver : Resolver) (c : Canvas) : Option Edge :=
  match conn.source.place resolver c, conn.target.place resolver c with
  | .ok source, .ok target =>
    some ⟨source.id, target.id, endLabels conn.edgeAttrs source target⟩
  | _, _ => none

def problems (conn : Connection) (resolver : Resolver) (c : Canvas) : List Diagnostic :=
  conn.source.problems resolver c conn.context ++ conn.target.problems resolver c conn.context

end Connection

namespace Canvas

/-- The canvas with more visible edges and more diagnostics. -/
def wired (c : Canvas) (edges : List Edge) (diagnostics : List Diagnostic) : Canvas :=
  { c with
    graph := { c.graph with edges := c.graph.edges ++ edges }
    diagnostics := c.diagnostics ++ diagnostics }

@[simp]
theorem wired_nil (c : Canvas) : c.wired [] [] = c := by
  simp [wired]

@[simp]
theorem wired_wired (c : Canvas) (es es' : List Edge) (ds ds' : List Diagnostic) :
    (c.wired es ds).wired es' ds' = c.wired (es ++ es') (ds ++ ds') := by
  simp [wired]

/-- Every node that a look-up finds is declared. -/
def KnowsIds (c : Canvas) : Prop :=
  ∀ key id, c.lookup key = some id ∨ c.lookupDevice key = some id → id ∈ c.declared

theorem Accounts.knowsIds {c : Canvas} {calls : List Call} (h : c.Accounts calls) :
    c.KnowsIds := by
  intro key id hid
  rw [h.declared, List.mem_reverse]
  rcases hid with hid | hid
  · obtain ⟨call, hcall, rfl, -⟩ := h.exists_call_of_lookup hid
    exact List.mem_map_of_mem hcall
  · obtain ⟨call, hcall, rfl, -⟩ := h.exists_call_of_lookupDevice hid
    exact List.mem_map_of_mem hcall

end Canvas

/-- A token that names a node is its key, or the type of the first candidate, whose key it then
    stands for. -/
theorem Resolver.resolve_cases {r : Resolver} {token : String} {c : Canvas} {found : Resolved}
    (h : r.resolve token c = .ok found) :
    isPlaceholder token = false ∧
      ((found.key = Text.trim token ∧
          (c.lookupDevice found.key).or (c.lookup found.key) = some found.graphId) ∨
        (c.lookupDevice (Text.trim token) = none ∧ c.lookup (Text.trim token) = none ∧
          (∃ type, r.candidates.find? (fun candidate => candidate.2 == Text.trim token) =
            some (found.key, type)) ∧
          c.lookupDevice found.key = some found.graphId)) := by
  unfold resolve at h
  split_ifs at h with hplaceholder
  refine ⟨by simpa using hplaceholder, ?_⟩
  dsimp only at h
  split at h
  · rename_i id hid
    cases h
    exact .inl ⟨rfl, hid⟩
  · rename_i hnone
    rw [Option.or_eq_none_iff] at hnone
    split at h
    · cases h
    · rename_i deviceId type hcandidate
      split at h
      · rename_i id hid
        cases h
        exact .inr ⟨hnone.1, hnone.2, ⟨type, hcandidate⟩, hid⟩
      · cases h

/-- A token that names a node names a declared one. -/
theorem Resolver.graphId_mem_declared {r : Resolver} {token : String} {c : Canvas}
    (h : c.KnowsIds) {found : Resolved} (hfound : r.resolve token c = .ok found) :
    found.graphId ∈ c.declared := by
  obtain ⟨-, ⟨-, hid⟩ | ⟨-, -, -, hid⟩⟩ := Resolver.resolve_cases hfound
  · exact h _ _ ((Option.or_eq_some_iff.1 hid).elim .inr fun hid => .inl hid.2)
  · exact h _ _ (.inr hid)

/-- An end that names a node is at a declared one. -/
theorem Endpoint.id_mem_declared {e : Endpoint} {resolver : Resolver} {c : Canvas}
    (h : c.KnowsIds) {a : Attachment} (ha : e.place resolver c = .ok a) : a.id ∈ c.declared := by
  unfold place at ha
  cases hfound : resolver.resolve e.device c with
  | error reason => rw [hfound] at ha; cases ha
  | ok device =>
    have hdevice := Resolver.graphId_mem_declared h hfound
    simp only [hfound, Except.map, Except.ok.injEq] at ha
    split at ha
    · exact ha ▸ hdevice
    · split at ha
      · rename_i portId hport
        exact ha ▸ h _ _ (.inl hport)
      · exact ha ▸ hdevice

/-- An edge between declared nodes is drawn. -/
theorem edge_wired {c : Canvas} {source target : String} (hs : source ∈ c.declared)
    (ht : target ∈ c.declared) (attrs : Attrs) (es : List Edge) (ds : List Diagnostic) :
    (edge source target attrs (c.wired es ds)).2 =
      c.wired (es ++ [⟨source, target, attrs⟩]) ds := by
  have hboth : source ∈ (c.wired es ds).declared ∧ target ∈ (c.wired es ds).declared := ⟨hs, ht⟩
  rw [edge_apply, if_pos hboth]
  simp [Canvas.wired]

theorem bind_apply {α β : Type} (m : Draw α) (f : α → Draw β) (c : Canvas) :
    (m >>= f) c = f (m c).1 (m c).2 :=
  rfl

/-- Finding an end adds at most its problem. -/
theorem attach_wired (resolver : Resolver) (e : Endpoint) (context : String) (c : Canvas)
    (es : List Edge) (ds : List Diagnostic) :
    attach resolver e context (c.wired es ds) =
      ((e.place resolver c).toOption, c.wired es (ds ++ e.problems resolver c context)) := by
  -- edges and diagnostics do not matter to where an end goes
  have hplace : e.place resolver ((get : Draw Canvas) (c.wired es ds)).1 = e.place resolver c :=
    rfl
  unfold attach Endpoint.problems
  rw [bind_apply, hplace]
  cases e.place resolver c with
  | ok a =>
    rw [List.append_nil]
    rfl
  | error reason =>
    change (none, (c.wired es ds).report _) = (none, _)
    simp [Canvas.wired, Canvas.report]

/-- The edge of a connection, if both of its ends have a place. -/
def Connection.strike (conn : Connection) : Option Attachment → Option Attachment → Draw Unit
  | some s, some t => edge s.id t.id (endLabels conn.edgeAttrs s t)
  | _, _ => return ()

theorem connect_apply (resolver : Resolver) (conn : Connection) (c : Canvas) :
    connect resolver conn c =
      let source := attach resolver conn.source conn.context c
      let target := attach resolver conn.target conn.context source.2
      conn.strike source.1 target.1 target.2 := by
  unfold connect
  simp only [bind_apply]
  cases (attach resolver conn.source conn.context c).1 with
  | none => rfl
  | some s => cases (attach resolver conn.target conn.context _).1 <;> rfl

/-- A connection adds its edge and its problems. -/
theorem connect_wired {c : Canvas} (hc : c.KnowsIds) (resolver : Resolver) (conn : Connection)
    (es : List Edge) (ds : List Diagnostic) :
    (connect resolver conn (c.wired es ds)).2 =
      c.wired (es ++ (conn.edge? resolver c).toList) (ds ++ conn.problems resolver c) := by
  have hconnect : connect resolver conn (c.wired es ds) =
      conn.strike (conn.source.place resolver c).toOption (conn.target.place resolver c).toOption
        (c.wired es (ds ++ conn.problems resolver c)) := by
    rw [connect_apply]
    dsimp only
    rw [attach_wired, attach_wired, List.append_assoc]
    rfl
  rw [hconnect, Connection.edge?]
  cases hs : conn.source.place resolver c with
  | error reason => simp [Except.toOption]; rfl
  | ok s =>
    cases ht : conn.target.place resolver c with
    | error reason => simp [Except.toOption]; rfl
    | ok t =>
      exact edge_wired (Endpoint.id_mem_declared hc hs) (Endpoint.id_mem_declared hc ht) _ _ _

/-- The problems of records are reported in order. -/
theorem forM_warn_wired (problems : List Diagnostic) (c : Canvas) (es : List Edge)
    (ds : List Diagnostic) :
    (problems.forM warn (c.wired es ds)).2 = c.wired es (ds ++ problems) := by
  induction problems generalizing ds with
  | nil => rw [List.append_nil]; rfl
  | cons d problems ih =>
    have hfirst : (warn d (c.wired es ds)).2 = c.wired es (ds ++ [d]) := by
      change (c.wired es ds).report d = _
      simp [Canvas.wired, Canvas.report]
    change (problems.forM warn (warn d (c.wired es ds)).2).2 = _
    rw [hfirst, ih, List.append_assoc]
    rfl

theorem forM_connect_wired {c : Canvas} (hc : c.KnowsIds) (resolver : Resolver)
    (conns : List Connection) (es : List Edge) (ds : List Diagnostic) :
    (conns.forM (connect resolver) (c.wired es ds)).2 =
      c.wired (es ++ conns.filterMap (·.edge? resolver c))
        (ds ++ conns.flatMap (·.problems resolver c)) := by
  induction conns generalizing es ds with
  | nil => simp; rfl
  | cons conn conns ih =>
    rw [List.forM_eq_forM, List.forM_cons, bind_apply, ← List.forM_eq_forM, connect_wired hc, ih,
      List.flatMap_cons, List.append_assoc, List.append_assoc]
    cases h : conn.edge? resolver c with
    | none => rw [List.filterMap_cons, h]; rfl
    | some e => rw [List.filterMap_cons, h]; rfl

/-- All connections add their edges in order, and their problems behind those of the records. -/
theorem connectAll_eq {c : Canvas} (hc : c.KnowsIds) (resolver : Resolver)
    (decoded : Connection.Decoded) :
    (connectAll resolver decoded c).2 =
      c.wired (decoded.connections.filterMap (·.edge? resolver c))
        (decoded.problems ++ decoded.connections.flatMap (·.problems resolver c)) := by
  change (decoded.connections.forM (connect resolver) (decoded.problems.forM warn c).2).2 = _
  have hwarn := forM_warn_wired decoded.problems c [] []
  rw [Canvas.wired_nil] at hwarn
  rw [hwarn, forM_connect_wired hc]
  rfl

theorem isPrintable_endLabels {attrs : Attrs} (h : attrs.IsPrintable)
    (source target : Attachment) : (endLabels attrs source target).IsPrintable := by
  obtain ⟨s, _ | p⟩ := source <;> obtain ⟨t, _ | q⟩ := target
  · exact h
  · exact h.text (by decide) q
  · exact h.text (by decide) p
  · exact (h.text (by decide) p).text (by decide) q

theorem isInvisible_endLabels (attrs : Attrs) (source target : Attachment) :
    (endLabels attrs source target).isInvisible = attrs.isInvisible := by
  obtain ⟨s, _ | p⟩ := source <;> obtain ⟨t, _ | q⟩ := target
  · rfl
  · exact Attrs.isInvisible_text_of_ne (by decide)
  · exact Attrs.isInvisible_text_of_ne (by decide)
  · exact (Attrs.isInvisible_text_of_ne (by decide)).trans
      (Attrs.isInvisible_text_of_ne (by decide))

namespace Canvas

def AllowsEdge (c : Canvas) (e : Edge) : Prop :=
  e.source ∈ c.declared ∧ e.target ∈ c.declared ∧ e.attrs.IsPrintable ∧
    e.attrs.isInvisible = false

def reports (ds : List Diagnostic) : List Event :=
  ds.map .warn

def strokes (es : List Edge) : List Event :=
  es.map fun e => .edge e.source e.target e.attrs

theorem run_reports (ds : List Diagnostic) (c : Canvas) :
    run (reports ds) c = c.wired [] ds ∧ Admits (reports ds) c ∧
      logOf (reports ds) c = ⟨[], [], ds⟩ := by
  induction ds generalizing c with
  | nil => exact ⟨c.wired_nil.symm, trivial, rfl⟩
  | cons d ds ih =>
    obtain ⟨hrun, hadmits, hlog⟩ := ih (c.report d)
    refine ⟨?_, ⟨trivial, hadmits⟩, ?_⟩
    · exact hrun.trans (by simp [wired, report])
    · exact congrArg (Log.append ⟨[], [], [d]⟩) hlog

theorem run_strokes {es : List Edge} {c : Canvas} (h : ∀ e ∈ es, c.AllowsEdge e) :
    run (strokes es) c = c.wired es [] ∧ Admits (strokes es) c ∧
      logOf (strokes es) c = ⟨[], es, []⟩ := by
  induction es generalizing c with
  | nil => exact ⟨c.wired_nil.symm, trivial, rfl⟩
  | cons e es ih =>
    obtain ⟨hfirst, hrest⟩ := List.forall_mem_cons.1 h
    have hdrawn : (edge e.source e.target e.attrs c).2 = c.wired [e] [] := by
      have hedge := edge_wired hfirst.1 hfirst.2.1 e.attrs [] []
      rwa [wired_nil] at hedge
    obtain ⟨hrun, hadmits, hlog⟩ := ih (c := c.wired [e] []) hrest
    refine ⟨?_, ⟨hfirst, ?_⟩, ?_⟩
    · change run (strokes es) (edge e.source e.target e.attrs c).2 = _
      rw [hdrawn, hrun, wired_wired]
      rfl
    · change Admits (strokes es) (edge e.source e.target e.attrs c).2
      rwa [hdrawn]
    · change Log.append ⟨[], [e], []⟩ (logOf (strokes es) (edge e.source e.target e.attrs c).2) = _
      rw [hdrawn, hlog]
      rfl

/-- Adding edges and diagnostics is a sequence of steps. -/
theorem wired_eq_run {es : List Edge} {c : Canvas} (h : ∀ e ∈ es, c.AllowsEdge e)
    (ds : List Diagnostic) :
    run (reports ds ++ strokes es) c = c.wired es ds ∧ Admits (reports ds ++ strokes es) c ∧
      logOf (reports ds ++ strokes es) c = ⟨[], es, ds⟩ := by
  obtain ⟨hrun, hadmits, hlog⟩ := run_reports ds c
  obtain ⟨hrun', hadmits', hlog'⟩ := run_strokes (c := c.wired [] ds) h
  refine ⟨?_, admits_append.2 ⟨hadmits, ?_⟩, ?_⟩
  · rw [run_append, hrun, hrun', wired_wired]
    simp
  · rwa [hrun]
  · rw [logOf_append, hrun, hlog, hlog', Log.mk_append_mk, List.append_nil, List.append_nil,
      List.nil_append]

end Canvas

namespace Canvas

theorem closeCluster_wired (c : Canvas) (es : List Edge) (ds : List Diagnostic) :
    (c.wired es ds).closeCluster = c.closeCluster.wired es ds := by
  obtain ⟨graph, scopes, nodeIds, clusterIds, nodeMap, devices, declared, diagnostics⟩ := c
  rcases scopes with _ | ⟨inner, _ | ⟨outer, rest⟩⟩ <;> rfl

/-- Edges and diagnostics do not matter to how a diagram is finished. -/
theorem finish_wired (c : Canvas) (es : List Edge) (ds : List Diagnostic) :
    (c.wired es ds).finish =
      ⟨{ c.finish.graph with edges := c.finish.graph.edges ++ es }, c.finish.nodeMap,
        c.finish.diagnostics ++ ds⟩ := by
  have hclosings : ∀ (n : Nat) (c : Canvas), run (List.replicate n .closing) (c.wired es ds) =
      (run (List.replicate n .closing) c).wired es ds := by
    intro n
    induction n with
    | zero => exact fun _ => rfl
    | succ n ih =>
      intro c
      change run (List.replicate n .closing) (c.wired es ds).closeCluster = _
      rw [closeCluster_wired, ih]
      rfl
  have hrun : run (c.wired es ds).closings (c.wired es ds) = (run c.closings c).wired es ds :=
    hclosings c.scopes.length c
  rw [finish_eq, finish_eq, hrun]
  rfl

theorem finish_of_scopes {c : Canvas} (h : c.scopes = []) :
    c.finish = ⟨c.graph, c.nodeMap, c.diagnostics⟩ := by
  rw [finish, h]
  rfl

end Canvas

/-- The edge of a connection may be drawn. -/
theorem Connection.allowsEdge {c : Canvas} (hc : c.KnowsIds) {resolver : Resolver}
    {conn : Connection} {e : Edge} (h : conn.edge? resolver c = some e) : c.AllowsEdge e := by
  unfold edge? at h
  split at h
  · rename_i source target hs ht
    cases h
    exact ⟨Endpoint.id_mem_declared hc hs, Endpoint.id_mem_declared hc ht,
      isPrintable_endLabels conn.isPrintable_edgeAttrs source target,
      (isInvisible_endLabels ..).trans conn.isInvisible_edgeAttrs⟩
  · cases h

end InfraDiagram

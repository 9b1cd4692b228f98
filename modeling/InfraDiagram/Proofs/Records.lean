import InfraDiagram.Proofs.Runs

/-!
# No record is lost

Every connection record that is read for a document becomes one visible edge, or one problem that
says where the record stands, or one such problem for each of its ends that names no node.

## Main definitions

- `Record`, `recordsOf` — the records that are read for a document of a given kind
- `Groundwork.outcome` — what becomes of a record
- `Settled` — the outcomes that a record may have
- `RecordsSettled` — a result that has one of these for every record, and no other edges

## Main statements

- `nodup_contexts` — where a record stands tells it from all others
- `settled_of_generate` — what becomes of the records of every document that is drawn
-/

namespace InfraDiagram

open Dot Connection

-- ════════════════════════════════════════════════════════════════════════
-- Records
-- ════════════════════════════════════════════════════════════════════════

/-- A connection record where it stands in a document. -/
structure Record where
  context : String
  category : Category
  catalog : CableCatalog
  value : Value

/-- The records of a list in order, each with its place. -/
def RecordList.entries (l : RecordList) : List Record :=
  l.records.zipIdx.map fun (v, i) => ⟨(l.path.index i).text, l.category, l.catalog, v⟩

/-- The records that are read for a document of a given kind, in order. -/
def recordsOf (kind : Kind) (doc : Mapping) : List Record :=
  (recordLists kind doc).flatMap RecordList.entries

namespace Record

def connection (r : Record) : Except Diagnostic Connection :=
  ofRecord r.value r.category r.catalog r.context

/-- A record that is read stands in the context of its connection, and one that is not is reported
    there. -/
theorem connection_cases (r : Record) :
    (∃ conn, r.connection = .ok conn ∧ conn.context = r.context) ∨
      ∃ reason, r.connection = .error (.malformedConnection r.context reason) := by
  unfold connection ofRecord
  split
  · split
    · exact .inl ⟨_, rfl, rfl⟩
    · exact .inr ⟨_, rfl⟩
    · exact .inr ⟨_, rfl⟩
  · exact .inr ⟨_, rfl⟩

def connection? (r : Record) : Option Connection :=
  r.connection.toOption

def faults (r : Record) : List Diagnostic :=
  match r.connection with
  | .ok _ => []
  | .error d => [d]

end Record

theorem Connection.Decoded.ofResult_append (result : Except Diagnostic Connection)
    (rest : Decoded) :
    Decoded.ofResult result ++ rest =
      ⟨result.toOption.toList ++ rest.connections,
        (match result with | .ok _ => [] | .error d => [d]) ++ rest.problems⟩ := by
  cases result <;> rfl

/-- Records are decoded one by one. -/
theorem RecordList.decoded_eq (l : RecordList) :
    l.decoded = ⟨l.entries.filterMap Record.connection?, l.entries.flatMap Record.faults⟩ := by
  unfold decoded decodeList entries
  induction l.records.zipIdx with
  | nil => rfl
  | cons entry rest ih =>
    rw [List.map_cons, List.foldr_cons, ih, Decoded.ofResult_append, List.map_cons,
      List.filterMap_cons, List.flatMap_cons]
    obtain ⟨v, i⟩ := entry
    simp only [Record.connection?, Record.faults, Record.connection]
    cases ofRecord v l.category l.catalog (l.path.index i).text <;> rfl

theorem RecordList.decodedAll_eq (ls : List RecordList) :
    RecordList.decodedAll ls =
      ⟨(ls.flatMap RecordList.entries).filterMap Record.connection?,
        (ls.flatMap RecordList.entries).flatMap Record.faults⟩ := by
  unfold decodedAll
  induction ls with
  | nil => rfl
  | cons l ls ih =>
    rw [List.map_cons, List.foldr_cons, ih, l.decoded_eq, List.flatMap_cons, List.filterMap_append,
      List.flatMap_append]
    rfl

-- ════════════════════════════════════════════════════════════════════════
-- Places of records
-- ════════════════════════════════════════════════════════════════════════

theorem Path.text_index (p : Path) (i : Nat) :
    (p.index i).text = p.text ++ ("[" ++ toString i ++ "]") := by
  simp [text, index, Step.text, String.join_append, String.append_assoc]

theorem aliasOf_mem (m : Mapping) (key : String) (rest : List String) :
    aliasOf m (key :: rest) ∈ key :: rest := by
  unfold aliasOf
  cases hfind : (key :: rest).find? (Field.isPresent m) with
  | none => simp
  | some found => exact List.mem_of_find?_eq_some hfind

/-- The lists that are read have different paths, and none of them is an item of another list. -/
theorem exists_paths (kind : Kind) (doc : Mapping) :
    ∃ paths, ((recordLists kind doc).map fun l => l.path.text) = paths ∧ paths.Nodup ∧
      ∀ path ∈ paths, '[' ∉ path.toList := by
  have hpair : ∀ (m : Mapping) (a b : String),
      aliasOf m [a, b] = a ∨ aliasOf m [a, b] = b := by
    intro m a b
    simpa using aliasOf_mem m a [b]
  cases kind with
  | siteTopology => exact ⟨["$.connections"], rfl, by decide⟩
  | siteEquipment | rackServers | serverDetails =>
    exact ⟨["$.connections", "$.power_connections", "$.data_connections",
      "$.optional_connections"], rfl, by decide⟩
  | topology =>
    simp only [recordLists]
    split
    · rename_i topology _
      rcases hpair topology "connections" "links" with h | h <;> rw [h]
      · exact ⟨["$.topology.connections", "$.connections"], rfl, by decide⟩
      · exact ⟨["$.topology.links", "$.connections"], rfl, by decide⟩
    · exact ⟨[], rfl, by decide⟩
  | device =>
    simp only [recordLists]
    split_ifs
    · exact ⟨["$.connections"], rfl, by decide⟩
    · exact ⟨[], rfl, by decide⟩
  | links => exact ⟨["$.links"], rfl, by decide⟩
  | intent =>
    simp only [recordLists]
    split
    · rename_i intent _
      rcases hpair intent "flows" "paths" with h | h <;> rw [h]
      · exact ⟨["$.intent.flows"], rfl, by decide⟩
      · exact ⟨["$.intent.paths"], rfl, by decide⟩
    · exact ⟨[], rfl, by decide⟩
  | unknown => exact ⟨[], rfl, by decide⟩

/-- The context of an item tells its list and its position. -/
theorem index_text_injective {p q : Path} (hp : '[' ∉ p.text.toList) {i j : Nat}
    (h : (p.index i).text = (q.index j).text) : p.text = q.text ∧ i = j := by
  have hbracket : '[' ∉ (toString i).toList ++ [']'] := by
    simp only [List.mem_append, not_or]
    refine ⟨fun hmem => ?_, by decide⟩
    have hdigit := Id.isAsciiDigit_of_mem_toString hmem
    revert hdigit
    decide
  have htext : p.text.toList ++ '[' :: ((toString i).toList ++ [']']) =
      q.text.toList ++ '[' :: ((toString j).toList ++ [']']) := by
    rw [p.text_index, q.text_index, ← String.toList_inj] at h
    simp only [String.toList_append] at h
    exact h
  rw [List.append_cons_inj_of_notMem hp hbracket] at htext
  obtain ⟨hpath, -, hposition⟩ := htext
  exact ⟨String.toList_inj.1 hpath,
    Id.toString_injective (String.toList_inj.1 (List.append_cancel_right hposition))⟩

theorem RecordList.map_context_entries (l : RecordList) :
    l.entries.map Record.context =
      (List.range l.records.length).map fun i => (l.path.index i).text := by
  rw [entries, List.map_map, List.range_eq_range', ← List.zipIdx_map_snd, List.map_map]
  rfl

/-- Where a record stands tells it from all others. -/
theorem nodup_contexts (kind : Kind) (doc : Mapping) :
    ((recordsOf kind doc).map Record.context).Nodup := by
  obtain ⟨paths, heq, hpaths, hbracket⟩ := exists_paths kind doc
  have hpath : ∀ l ∈ recordLists kind doc, '[' ∉ l.path.text.toList :=
    fun l hl => hbracket _ (heq ▸ List.mem_map_of_mem hl)
  rw [← heq, List.Nodup, List.pairwise_map] at hpaths
  rw [recordsOf, List.map_flatMap, List.nodup_flatMap]
  -- positions differ within a list, paths between lists
  constructor
  · intro l hl
    rw [l.map_context_entries]
    exact List.nodup_range.map_on fun i _ j _ h =>
      (index_text_injective (hpath l hl) h).2
  · refine hpaths.imp_of_mem fun {l l'} hl hl' hne => ?_
    simp only [Function.onFun, RecordList.map_context_entries]
    intro context hcontext hcontext'
    obtain ⟨i, -, rfl⟩ := List.mem_map.1 hcontext
    obtain ⟨j, -, heq'⟩ := List.mem_map.1 hcontext'
    exact hne (index_text_injective (hpath l' hl') heq').1.symm

-- ════════════════════════════════════════════════════════════════════════
-- Outcomes
-- ════════════════════════════════════════════════════════════════════════

/-- What becomes of a record: the edge that is drawn for it, and the problems that it causes. -/
structure Outcome where
  edge : Option Edge
  diagnostics : List Diagnostic
  deriving DecidableEq

namespace Groundwork

/-- The problems of a record's ends. -/
def looseEnds (w : Groundwork) (r : Record) : List Diagnostic :=
  r.connection?.toList.flatMap (·.problems w.scene.resolver w.canvas)

/-- What becomes of a record on the nodes that were drawn. -/
def outcome (w : Groundwork) (r : Record) : Outcome :=
  ⟨r.connection?.bind (·.edge? w.scene.resolver w.canvas), r.faults ++ w.looseEnds r⟩

end Groundwork

/-- The outcomes that a record may have: an edge and no problem; a problem of the record on its
    own; or a problem for each of its ends that names no node. -/
inductive Settled (w : Groundwork) (r : Record) : Outcome → Prop where
  | drawn {conn : Connection} {source target : Attachment} (hread : r.connection = .ok conn)
      (hsource : conn.source.place w.scene.resolver w.canvas = .ok source)
      (htarget : conn.target.place w.scene.resolver w.canvas = .ok target) :
      Settled w r ⟨some ⟨source.id, target.id, endLabels conn.edgeAttrs source target⟩, []⟩
  | malformed {reason : String}
      (hread : r.connection = .error (.malformedConnection r.context reason)) :
      Settled w r ⟨none, [.malformedConnection r.context reason]⟩
  | sourceLoose {conn : Connection} {target : Attachment} {reason : Unresolved}
      (hread : r.connection = .ok conn)
      (hsource : conn.source.place w.scene.resolver w.canvas = .error reason)
      (htarget : conn.target.place w.scene.resolver w.canvas = .ok target) :
      Settled w r ⟨none, [.unresolvedEndpoint conn.source.device reason.reason r.context]⟩
  | targetLoose {conn : Connection} {source : Attachment} {reason : Unresolved}
      (hread : r.connection = .ok conn)
      (hsource : conn.source.place w.scene.resolver w.canvas = .ok source)
      (htarget : conn.target.place w.scene.resolver w.canvas = .error reason) :
      Settled w r ⟨none, [.unresolvedEndpoint conn.target.device reason.reason r.context]⟩
  | bothLoose {conn : Connection} {reason reason' : Unresolved} (hread : r.connection = .ok conn)
      (hsource : conn.source.place w.scene.resolver w.canvas = .error reason)
      (htarget : conn.target.place w.scene.resolver w.canvas = .error reason') :
      Settled w r ⟨none, [.unresolvedEndpoint conn.source.device reason.reason r.context,
        .unresolvedEndpoint conn.target.device reason'.reason r.context]⟩

theorem Groundwork.settled (w : Groundwork) (r : Record) : Settled w r (w.outcome r) := by
  obtain ⟨conn, hread, hcontext⟩ | ⟨reason, hread⟩ := r.connection_cases
  · have houtcome : w.outcome r = ⟨conn.edge? w.scene.resolver w.canvas,
        conn.problems w.scene.resolver w.canvas⟩ := by
      simp [outcome, looseEnds, Record.connection?, Record.faults, hread, Except.toOption]
    rw [houtcome]
    unfold Connection.edge? Connection.problems Endpoint.problems
    cases hsource : conn.source.place w.scene.resolver w.canvas with
    | ok source =>
      cases htarget : conn.target.place w.scene.resolver w.canvas with
      | ok target => exact .drawn hread hsource htarget
      | error reason => exact hcontext ▸ .targetLoose hread hsource htarget
    | error reason =>
      cases htarget : conn.target.place w.scene.resolver w.canvas with
      | ok target => exact hcontext ▸ .sourceLoose hread hsource htarget
      | error reason' => exact hcontext ▸ .bothLoose hread hsource htarget
  · have houtcome : w.outcome r = ⟨none, [.malformedConnection r.context reason]⟩ := by
      simp [outcome, looseEnds, Record.connection?, Record.faults, hread, Except.toOption]
    rw [houtcome]
    exact .malformed hread

-- ════════════════════════════════════════════════════════════════════════
-- All records together
-- ════════════════════════════════════════════════════════════════════════

/-- The place in the document that a problem of a connection names. -/
def Diagnostic.context? : Diagnostic → Option String
  | .unresolvedEndpoint _ _ context => some context
  | .malformedConnection context _ => some context
  | _ => none

/-- The diagnostics that name a place. -/
def diagnosticsAt (context : String) (ds : List Diagnostic) : List Diagnostic :=
  ds.filter fun d => d.context? = some context

theorem diagnosticsAt_append (context : String) (ds ds' : List Diagnostic) :
    diagnosticsAt context (ds ++ ds') = diagnosticsAt context ds ++ diagnosticsAt context ds' :=
  List.filter_append ..

theorem diagnosticsAt_eq_self {context : String} {ds : List Diagnostic}
    (h : ∀ d ∈ ds, d.context? = some context) : diagnosticsAt context ds = ds :=
  List.filter_eq_self.2 fun d hd => decide_eq_true (h d hd)

theorem diagnosticsAt_eq_nil {context : String} {ds : List Diagnostic}
    (h : ∀ d ∈ ds, d.context? ≠ some context) : diagnosticsAt context ds = [] :=
  List.filter_eq_nil_iff.2 fun d hd => by simpa using h d hd

theorem Record.context?_faults (r : Record) : ∀ d ∈ r.faults, d.context? = some r.context := by
  intro d hd
  unfold faults at hd
  obtain ⟨conn, hread, -⟩ | ⟨reason, hread⟩ := r.connection_cases
  · simp [hread] at hd
  · rw [hread, List.mem_singleton] at hd
    rw [hd]
    rfl

theorem Connection.context?_problems (conn : Connection) (resolver : Resolver) (c : Canvas) :
    ∀ d ∈ conn.problems resolver c, d.context? = some conn.context := by
  have hend : ∀ e : Endpoint, ∀ d ∈ e.problems resolver c conn.context,
      d.context? = some conn.context := by
    intro e d hd
    unfold Endpoint.problems at hd
    split at hd
    · simp at hd
    · rw [List.mem_singleton.1 hd]
      rfl
  exact List.forall_mem_append.2 ⟨hend conn.source, hend conn.target⟩

theorem Groundwork.context?_looseEnds (w : Groundwork) (r : Record) :
    ∀ d ∈ w.looseEnds r, d.context? = some r.context := by
  intro d hd
  obtain ⟨conn, hconn, hd⟩ := List.mem_flatMap.1 hd
  obtain ⟨conn', hread, hcontext⟩ | ⟨reason, hread⟩ := r.connection_cases
  · simp only [Record.connection?, hread, Except.toOption, Option.toList_some,
      List.mem_singleton] at hconn
    rw [← hcontext, ← hconn]
    exact conn.context?_problems _ _ d hd
  · simp [Record.connection?, hread, Except.toOption] at hconn

/-- Of the problems of several records, those that name one of them are its own. -/
theorem diagnosticsAt_flatMap {f : Record → List Diagnostic}
    (hf : ∀ r, ∀ d ∈ f r, d.context? = some r.context) {rs : List Record}
    (hrs : (rs.map Record.context).Nodup) {r : Record} (hr : r ∈ rs) :
    diagnosticsAt r.context (rs.flatMap f) = f r := by
  induction rs with
  | nil => simp at hr
  | cons first rest ih =>
    rw [List.map_cons, List.nodup_cons] at hrs
    rw [List.flatMap_cons, diagnosticsAt_append]
    rcases List.mem_cons.1 hr with rfl | hr
    · -- the contexts of the rest differ from that of `r`
      have hrest : ∀ d ∈ rest.flatMap f, d.context? ≠ some r.context := by
        intro d hd heq
        obtain ⟨other, hother, hd⟩ := List.mem_flatMap.1 hd
        rw [hf other d hd, Option.some.injEq] at heq
        exact hrs.1 (heq ▸ List.mem_map_of_mem hother)
      rw [diagnosticsAt_eq_self (hf r), diagnosticsAt_eq_nil hrest, List.append_nil]
    · have hfirst : ∀ d ∈ f first, d.context? ≠ some r.context := by
        intro d hd heq
        rw [hf first d hd, Option.some.injEq] at heq
        exact hrs.1 (heq ▸ List.mem_map_of_mem hr)
      rw [diagnosticsAt_eq_nil hfirst, List.nil_append, ih hrs.2 hr]

/-- The context of a record is that of a list item. -/
theorem getLast?_context {kind : Kind} {doc : Mapping} {r : Record}
    (h : r ∈ recordsOf kind doc) : r.context.toList.getLast? = some ']' := by
  obtain ⟨l, -, hentry⟩ := List.mem_flatMap.1 h
  obtain ⟨⟨v, i⟩, -, rfl⟩ := List.mem_map.1 hentry
  change (l.path.index i).text.toList.getLast? = _
  rw [Path.text_index, ← String.append_assoc, String.toList_append, List.getLast?_append]
  rfl

/-- The connections that ports declare stand at the ports and not in a list of records. -/
theorem context_portLinks {servers : List Device} {conn : Connection}
    (h : conn ∈ portLinks servers) : conn.context.toList.getLast? = some 'o' := by
  obtain ⟨server, -, hserver⟩ := List.mem_flatMap.1 h
  obtain ⟨⟨p, i⟩, -, hlink⟩ := List.mem_filterMap.1 hserver
  obtain ⟨peer, -, rfl⟩ := Option.map_eq_some_iff.1 hlink
  rw [String.toList_append, List.getLast?_append]
  rfl

namespace Course

variable {m : Mapping} {options : RenderOptions} {g : Generated} {w : Groundwork}
  {es : List Event} {l : Log}

/-- The edges of the records come in their order, and those that ports declare behind them. -/
theorem edges_records (h : Course m options g w es l) :
    w.edges = (recordsOf g.kind m).filterMap (fun r => (w.outcome r).edge) ++
      w.scene.portLinks.filterMap (·.edge? w.scene.resolver w.canvas) := by
  have hconnections : w.connections =
      (recordsOf g.kind m).filterMap Record.connection? ++ w.scene.portLinks := by
    rw [Groundwork.connections, Scene.connections, h.portrays.links, RecordList.decodedAll_eq]
    rfl
  rw [Groundwork.edges, hconnections, List.filterMap_append, List.filterMap_filterMap]
  rfl

/-- The problems of the records themselves come first, then those of their ends. -/
theorem problems_records (h : Course m options g w es l) :
    w.problems = (recordsOf g.kind m).flatMap Record.faults ++
      ((recordsOf g.kind m).flatMap w.looseEnds ++
        w.scene.portLinks.flatMap (·.problems w.scene.resolver w.canvas)) := by
  have hconnections : w.scene.connections =
      ⟨(recordsOf g.kind m).filterMap Record.connection? ++ w.scene.portLinks,
        (recordsOf g.kind m).flatMap Record.faults ++ []⟩ := by
    rw [Scene.connections, h.portrays.links, RecordList.decodedAll_eq]
    rfl
  rw [Groundwork.problems, Groundwork.connections, hconnections, List.append_nil,
    List.flatMap_append, List.filterMap_eq_flatMap_toList, List.flatMap_assoc]
  rfl

/-- Every problem with a connection names its place. -/
theorem exists_context (h : Course m options g w es l) :
    ∀ d ∈ w.problems, ∃ context, d.context? = some context := by
  rw [h.problems_records]
  intro d hd
  simp only [List.mem_append, List.mem_flatMap] at hd
  rcases hd with ⟨r, -, hd⟩ | ⟨r, -, hd⟩ | ⟨conn, -, hd⟩
  · exact ⟨_, r.context?_faults d hd⟩
  · exact ⟨_, w.context?_looseEnds r d hd⟩
  · exact ⟨_, conn.context?_problems _ _ d hd⟩

/-- Before the first connection, there are only collisions and the warnings about the document as a
    whole. -/
theorem diagnostics_canvas (h : Course m options g w es l) :
    ∀ d ∈ w.canvas.diagnostics, d.IsCollision ∨ d ∈ g.kind.warnings m := by
  obtain ⟨ds, hds, hreported⟩ := diagnostics_run h.admits
  rw [h.canvas] at hds
  rw [h.log, Log.warnings_append, h.places.warnings] at hreported
  intro d hd
  rw [hds] at hd
  exact hreported.mem hd

/-- The problems with nodes name no place. -/
theorem context?_canvas (h : Course m options g w es l) :
    ∀ d ∈ w.canvas.diagnostics, d.context? = none := by
  intro d hd
  rcases h.diagnostics_canvas d hd with ⟨key, base, assigned, rfl⟩ | hwarning
  · rfl
  · unfold Kind.warnings at hwarning
    split_ifs at hwarning
    · rw [List.mem_singleton.1 hwarning]
      rfl
    · simp at hwarning

/-- The diagnostics of a result that name the place of a record are those of its outcome. -/
theorem diagnosticsAt_eq (h : Course m options g w es l) {r : Record}
    (hr : r ∈ recordsOf g.kind m) :
    diagnosticsAt r.context g.diagnostics = (w.outcome r).diagnostics := by
  have hcontexts := nodup_contexts g.kind m
  have hcanvas : diagnosticsAt r.context w.canvas.diagnostics = [] :=
    diagnosticsAt_eq_nil fun d hd heq => by simp [h.context?_canvas d hd] at heq
  have hports : diagnosticsAt r.context
      (w.scene.portLinks.flatMap (·.problems w.scene.resolver w.canvas)) = [] := by
    refine diagnosticsAt_eq_nil fun d hd heq => ?_
    obtain ⟨conn, hconn, hd⟩ := List.mem_flatMap.1 hd
    rw [conn.context?_problems _ _ d hd, Option.some.injEq] at heq
    -- a context that ends in a bracket is no field of a port
    rcases h.portrays.portLinks with hnone | ⟨-, servers, hservers⟩
    · simp [hnone] at hconn
    · have hlast := context_portLinks (hservers ▸ hconn)
      rw [heq, getLast?_context hr] at hlast
      simp at hlast
  rw [h.diagnostics, h.problems_records, diagnosticsAt_append, diagnosticsAt_append,
    diagnosticsAt_append, hcanvas, hports, List.nil_append, List.append_nil,
    diagnosticsAt_flatMap Record.context?_faults hcontexts hr,
    diagnosticsAt_flatMap w.context?_looseEnds hcontexts hr]
  rfl

/-- Before the first connection, the only edges are those from devices in racks to their ports. -/
theorem edges_canvas (h : Course m options g w es l) :
    w.canvas.graph.edges =
      if g.kind.linksPorts then w.places.flatMap Placement.portLinks else [] := by
  have hedges := edges_run h.admits
  rw [h.canvas, h.log, Log.edges_append, h.places.edges] at hedges
  rw [hedges]
  exact List.append_nil _

end Course

/-- What becomes of the records of a document whose nodes are drawn. -/
structure RecordsSettled (m : Mapping) (g : Generated) (w : Groundwork) : Prop where
  /-- The place of a record tells it from all others. -/
  contexts : ((recordsOf g.kind m).map Record.context).Nodup
  outcomes : ∀ r ∈ recordsOf g.kind m, Settled w r (w.outcome r) ∧
    diagnosticsAt r.context g.diagnostics = (w.outcome r).diagnostics
  /-- The edges from devices in racks to their ports, those of the records in order, and those
      that the ports of servers declare. -/
  edges : g.diagram.graph.edges =
    (if g.kind.linksPorts then w.places.flatMap Placement.portLinks else []) ++
      ((recordsOf g.kind m).filterMap (fun r => (w.outcome r).edge) ++
        w.scene.portLinks.filterMap (·.edge? w.scene.resolver w.canvas))
  portLinks : w.scene.portLinks = [] ∨
    g.kind = .serverDetails ∧ ∃ servers, w.scene.portLinks = InfraDiagram.portLinks servers

theorem Course.recordsSettled {m : Mapping} {options : RenderOptions} {g : Generated}
    {w : Groundwork} {es : List Event} {l : Log} (h : Course m options g w es l) :
    RecordsSettled m g w where
  contexts := nodup_contexts g.kind m
  outcomes := fun r hr => ⟨w.settled r, h.diagnosticsAt_eq hr⟩
  edges := by rw [h.edges, h.edges_canvas, h.edges_records]
  portLinks := h.portrays.portLinks

/-- **No record is lost.** Every record has exactly one outcome: one visible edge and no diagnostic
    at its place; no edge and the diagnostic that it is malformed; or no edge and a diagnostic for
    each of its ends that names no node. There are no other visible edges than those of records and
    those that belong to ports. -/
theorem settled_of_generate {doc : Value} {options : RenderOptions} {g : Generated}
    (h : generate doc options = .ok g) :
    ∃ m w, doc = .mapping m ∧ (Plan.ofKind (classifyMapping m) m options).groundwork = .ok w ∧
      RecordsSettled m g w := by
  obtain ⟨m, w, es, l, hm, hcourse⟩ := exists_course h
  exact ⟨m, w, hm, hcourse.kind ▸ hcourse.groundwork, hcourse.recordsSettled⟩

/-- Records of a topology that is linked, malformed, and loose at both ends. -/
def mixed : Mapping :=
  [("topology", .mapping [
    ("devices", .list [.text "a", .text "b"]),
    ("links", .list [.mapping [("from", .text "a"), ("to", .text "b")], .text "a-b"])]),
    ("connections", .list [.mapping [("from", .text "x"), ("to", .text "y")]])]

/-- Two racks with records in all four lists, of which one is malformed and one is loose at one end.
    The lists stand in another order than the one in which they are read. -/
def fullyCabled : Mapping :=
  let cable (source target : String) : Value :=
    .mapping [("from", .text source), ("to", .text target)]
  [("racks", .list [
      .mapping [("id", .text "r"), ("devices", .list [
        .mapping [("id", .text "a"), ("ports", .list [.text "p"])]])],
      .mapping [("id", .text "q"), ("devices", .list [.text "b"])]]),
    ("optional_connections", .list [cable "b" "a"]),
    ("data_connections", .list [.text "a-b", cable "b" "a:p"]),
    ("power_connections", .list [cable "a" "x", cable "a" "b"]),
    ("connections", .list [cable "a:p" "b"])]

theorem settled_mixed :
    (∃ g, generate (.mapping mixed) .standard = .ok g ∧
      (recordsOf g.kind mixed).map Record.context =
        ["$.topology.links[0]", "$.topology.links[1]", "$.connections[0]"] ∧
      g.diagram.graph.edges = [⟨"a", "b", .empty⟩] ∧
      g.diagnostics =
        [.malformedConnection "$.topology.links[1]" "expected mapping, found string",
          .unresolvedEndpoint "x" Unresolved.noMatch.reason "$.connections[0]",
          .unresolvedEndpoint "y" Unresolved.noMatch.reason "$.connections[0]"] ∧
      ∃ m w, .mapping mixed = Value.mapping m ∧
        (Plan.ofKind (classifyMapping m) m .standard).groundwork = .ok w ∧
        RecordsSettled m g w) ∧
    ∃ g, generate (.mapping fullyCabled) .standard = .ok g ∧
      (recordsOf g.kind fullyCabled).map (fun r => (r.context, r.category)) =
        [("$.connections[0]", .link), ("$.power_connections[0]", .power),
          ("$.power_connections[1]", .power), ("$.data_connections[0]", .data),
          ("$.data_connections[1]", .data), ("$.optional_connections[0]", .optional)] ∧
      g.diagram.graph.edges.map (fun e => [e.source, e.target, (e.attrs.get? "style").getD ""]) =
        [["a", "\"a:p\"", "dotted"], ["\"a:p\"", "b", ""], ["a", "b", "dashed"],
          ["b", "\"a:p\"", ""], ["b", "a", "dotted"]] ∧
      g.diagnostics =
        [.malformedConnection "$.data_connections[0]" "expected mapping, found string",
          .unresolvedEndpoint "x" Unresolved.noMatch.reason "$.power_connections[0]"] ∧
      ∃ m w, .mapping fullyCabled = Value.mapping m ∧
        (Plan.ofKind (classifyMapping m) m .standard).groundwork = .ok w ∧
        RecordsSettled m g w := by
  constructor
  · have hresult : ((generate (.mapping mixed) .standard).toOption.map fun g =>
        ((recordsOf g.kind mixed).map Record.context, g.diagram.graph.edges, g.diagnostics)) =
        some (["$.topology.links[0]", "$.topology.links[1]", "$.connections[0]"],
          [⟨"a", "b", .empty⟩],
          [.malformedConnection "$.topology.links[1]" "expected mapping, found string",
            .unresolvedEndpoint "x" Unresolved.noMatch.reason "$.connections[0]",
            .unresolvedEndpoint "y" Unresolved.noMatch.reason "$.connections[0]"]) := by
      decide +kernel
    obtain ⟨g, hg, hshown⟩ := exists_of_toOption_map hresult
    simp only [Prod.mk.injEq] at hshown
    exact ⟨g, hg, hshown.1, hshown.2.1, hshown.2.2, settled_of_generate hg⟩
  · have hresult : ((generate (.mapping fullyCabled) .standard).toOption.map fun g =>
        ((recordsOf g.kind fullyCabled).map (fun r => (r.context, r.category)),
          g.diagram.graph.edges.map (fun e => [e.source, e.target, (e.attrs.get? "style").getD ""]),
          g.diagnostics)) =
        some ([("$.connections[0]", .link), ("$.power_connections[0]", .power),
            ("$.power_connections[1]", .power), ("$.data_connections[0]", .data),
            ("$.data_connections[1]", .data), ("$.optional_connections[0]", .optional)],
          [["a", "\"a:p\"", "dotted"], ["\"a:p\"", "b", ""], ["a", "b", "dashed"],
            ["b", "\"a:p\"", ""], ["b", "a", "dotted"]],
          [.malformedConnection "$.data_connections[0]" "expected mapping, found string",
            .unresolvedEndpoint "x" Unresolved.noMatch.reason "$.power_connections[0]"]) := by
      decide +kernel
    obtain ⟨g, hg, hshown⟩ := exists_of_toOption_map hresult
    simp only [Prod.mk.injEq] at hshown
    exact ⟨g, hg, hshown.1, hshown.2.1, hshown.2.2, settled_of_generate hg⟩

end InfraDiagram

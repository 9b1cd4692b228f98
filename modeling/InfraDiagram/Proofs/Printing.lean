import InfraDiagram.Proofs.Reader

/-!
# The tokens of printed graphs

Printed text is made of the tokens of its graph and of nothing else, whatever the identifiers,
attributes and comments say.

## Main definitions

- `Node.IsPrintable`, `Edge.IsPrintable`, `Cluster.IsPrintable`, `Graph.IsPrintable` — graphs made
  of identifiers and values in their final form
- `Graph.tokens` — the tokens of a graph in the order of printing

## Main statements

- `Graph.scans_toDot` — the printed text of a printable graph is made of its tokens
-/

namespace InfraDiagram.Dot

open Text

-- ════════════════════════════════════════════════════════════════════════
-- Printable graphs
-- ════════════════════════════════════════════════════════════════════════

/-- A node that prints well. -/
structure Node.IsPrintable (n : Node) : Prop where
  id : Id.IsIdentifier n.id
  attrs : n.attrs.IsPrintable

/-- An edge that prints well. -/
structure Edge.IsPrintable (e : Edge) : Prop where
  source : Id.IsIdentifier e.source
  target : Id.IsIdentifier e.target
  attrs : e.attrs.IsPrintable

/-- An ordering edge that prints well. -/
def Edge.IsOrdering (e : Edge) : Prop :=
  e.IsPrintable ∧ e.attrs.isInvisible = true

/-- A cluster that prints well, with everything in it. -/
inductive Cluster.IsPrintable : Cluster → Prop where
  | mk {id : String} {attrs : Attrs} {nodes : List Node} {clusters : List Cluster}
      {ordering : List Edge} (hid : Id.IsIdentifier id) (hattrs : attrs.IsPrintable)
      (hnodes : ∀ n ∈ nodes, n.IsPrintable) (hclusters : ∀ c ∈ clusters, c.IsPrintable)
      (hordering : ∀ e ∈ ordering, e.IsOrdering) :
      Cluster.IsPrintable ⟨id, attrs, nodes, clusters, ordering⟩

/-- A graph that prints well. -/
structure Graph.IsPrintable (g : Graph) : Prop where
  comments : ∀ text ∈ g.comments, '\n' ∉ text.toList
  nodes : ∀ n ∈ g.nodes, n.IsPrintable
  ordering : ∀ e ∈ g.ordering, e.IsOrdering
  clusters : ∀ c ∈ g.clusters, c.IsPrintable
  sameRank : ∀ id ∈ g.sameRank, Id.IsIdentifier id
  edges : ∀ e ∈ g.edges, e.IsPrintable ∧ e.attrs.isInvisible = false

-- ════════════════════════════════════════════════════════════════════════
-- Tokens
-- ════════════════════════════════════════════════════════════════════════

def pairTokens : List (String × String) → List Token
  | [] => [.mark ']']
  | [(k, v)] => [.name k, .mark '=', .name v, .mark ']']
  | (k, v) :: rest => .name k :: .mark '=' :: .name v :: .mark ',' :: pairTokens rest

def Attrs.tokens (attrs : Attrs) : List Token :=
  if attrs.isEmpty then [] else .mark '[' :: pairTokens attrs.entries

def assignTokens (entry : String × String) : List Token :=
  [.name entry.1, .mark '=', .name entry.2, .mark ';']

/-- The tokens of a node's declaration, or of default attributes. -/
def nodeTokens (id : String) (attrs : Attrs) : List Token :=
  .name id :: attrs.tokens ++ [.mark ';']

def Edge.tokens (e : Edge) : List Token :=
  .name e.source :: .arrow :: .name e.target :: e.attrs.tokens ++ [.mark ';']

def blockTokens (head body : List Token) : List Token :=
  head ++ .mark '\x7b' :: (body ++ [.mark '\x7d'])

mutual

def Cluster.tokens : Cluster → List Token
  | ⟨id, attrs, nodes, clusters, ordering⟩ =>
    blockTokens [.name "subgraph", .name id]
      (attrs.entries.flatMap assignTokens ++ (nodes.flatMap (fun n => nodeTokens n.id n.attrs) ++
        (Cluster.tokensOf clusters ++ ordering.flatMap Edge.tokens)))

def Cluster.tokensOf : List Cluster → List Token
  | [] => []
  | c :: rest => c.tokens ++ Cluster.tokensOf rest

end

def rankTokens (ids : List String) : List Token :=
  if ids.isEmpty then []
  else blockTokens []
    (assignTokens ("rank", "same") ++ ids.flatMap fun id => nodeTokens id .empty)

/-- The tokens of a graph between its comments and its closing brace. -/
def Graph.bodyTokens (g : Graph) (options : RenderOptions) : List Token :=
  (defaults options).flatMap (fun d => nodeTokens d.1 d.2) ++
    (g.nodes.flatMap (fun n => nodeTokens n.id n.attrs) ++ (g.ordering.flatMap Edge.tokens ++
      (Cluster.tokensOf g.clusters ++ (rankTokens g.sameRank ++ g.edges.flatMap Edge.tokens))))

def Graph.tokens (g : Graph) (options : RenderOptions) : List Token :=
  blockTokens [.name "digraph", .name (Id.ofName options.graphName)]
    (g.comments.map (fun text => .comment (" " ++ text)) ++
      if g.isEmpty then [] else g.bodyTokens options)

-- ════════════════════════════════════════════════════════════════════════
-- Texts of statements
-- ════════════════════════════════════════════════════════════════════════

/-- A text that cannot go on a word. -/
def EndsWord (piece : List Char) : Prop :=
  ∃ d rest, piece = d :: rest ∧ isLexemeChar d = false

/-- A token in front of what ends it. -/
theorem Scans.name {s : String} (h : IsToken s) {piece : List Char} {tokens : List Token}
    (hend : EndsWord piece) (hpiece : Scans piece tokens) :
    Scans (s.toList ++ piece) (.name s :: tokens) := by
  obtain ⟨d, rest, rfl, hd⟩ := hend
  exact .token h hd hpiece

theorem scans_indent (depth : Nat) : Scans (indent depth).toList [] := by
  rw [indent, String.toList_ofList]
  exact .gaps _

theorem scans_end : Scans ";\n".toList [.mark ';'] :=
  (Scans.mark (c := ';') rfl).append (.gap (c := '\n') rfl)

theorem endsWord_end : EndsWord ";\n".toList :=
  ⟨';', ['\n'], rfl, rfl⟩

/-- An attribute in front of what ends its value. -/
theorem scans_pair {entry : String × String}
    (h : Id.isBare entry.1 = true ∧ Id.IsLexeme entry.2) {piece : List Char}
    {tokens : List Token} (hend : EndsWord piece) (hpiece : Scans piece tokens) :
    Scans ((entry.1 ++ "=" ++ entry.2).toList ++ piece)
      (.name entry.1 :: .mark '=' :: .name entry.2 :: tokens) := by
  simp only [String.toList_append, List.append_assoc]
  exact .name (Id.isLexeme_of_isBare h.1).isToken ⟨'=', _, rfl, rfl⟩
    ((Scans.mark (c := '=') rfl).append (.name h.2.isToken hend hpiece))

theorem scans_pairs {entries : List (String × String)} (hne : entries ≠ [])
    (h : ∀ entry ∈ entries, Id.isBare entry.1 = true ∧ Id.IsLexeme entry.2) :
    Scans (", ".toList.intercalate (entries.map fun entry =>
      (entry.1 ++ "=" ++ entry.2).toList) ++ [']']) (pairTokens entries) := by
  induction entries with
  | nil => exact absurd rfl hne
  | cons entry rest ih =>
    rw [List.forall_mem_cons] at h
    -- a comma ends each value but the last one, which the bracket ends
    cases rest with
    | nil =>
      have hlast := scans_pair h.1 ⟨']', [], rfl, rfl⟩ (.mark rfl)
      simpa [pairTokens, List.intercalate] using hlast
    | cons next rest =>
      rw [List.map_cons, List.map_cons, List.intercalate_cons_cons, List.append_assoc,
        List.append_assoc]
      refine scans_pair h.1 ⟨',', _, rfl, rfl⟩ ?_
      exact (Scans.mark (c := ',') rfl).append
        ((Scans.gap (c := ' ') rfl).append (ih (by simp) h.2))

/-- The attributes of a statement with the end of the statement. -/
theorem Attrs.scans_toDot {attrs : Attrs} (h : attrs.IsPrintable) :
    Scans (attrs.toDot ++ ";\n").toList (attrs.tokens ++ [.mark ';']) ∧
      EndsWord (attrs.toDot ++ ";\n").toList := by
  unfold Attrs.toDot Attrs.tokens
  by_cases hempty : attrs.isEmpty = true
  · rw [if_pos hempty, if_pos hempty]
    exact ⟨scans_end, endsWord_end⟩
  · rw [if_neg hempty, if_neg hempty]
    have hne : attrs.entries ≠ [] := by simpa [Attrs.isEmpty] using hempty
    have htext : (" [" ++ ", ".intercalate (attrs.entries.map fun entry =>
          entry.1 ++ "=" ++ entry.2) ++ "]" ++ ";\n").toList =
        ' ' :: '[' :: ((", ".toList.intercalate (attrs.entries.map fun entry =>
          (entry.1 ++ "=" ++ entry.2).toList) ++ [']']) ++ ";\n".toList) := by
      simp only [String.toList_append, String.toList_intercalate, List.map_map]
      simp [Function.comp_def]
    rw [htext]
    refine ⟨?_, ⟨' ', _, rfl, rfl⟩⟩
    exact (Scans.gap (c := ' ') rfl).append ((Scans.mark (c := '[') rfl).append
      ((scans_pairs hne h).append scans_end))

theorem scans_nodeTokens {depth : Nat} {id : String} {attrs : Attrs} (hid : IsToken id)
    (hattrs : attrs.IsPrintable) :
    Scans (indent depth ++ id ++ attrs.toDot ++ ";\n").toList (nodeTokens id attrs) := by
  obtain ⟨hscans, hend⟩ := Attrs.scans_toDot hattrs
  rw [String.append_assoc, String.append_assoc, String.toList_append, String.toList_append]
  exact (scans_indent depth).append (.name hid hend hscans)

theorem Node.scans_toDot {n : Node} (h : n.IsPrintable) (depth : Nat) :
    Scans (n.toDot depth).toList (nodeTokens n.id n.attrs) :=
  scans_nodeTokens (Id.IsLexeme.isToken (.inl h.id)) h.attrs

theorem Edge.scans_toDot {e : Edge} (h : e.IsPrintable) (depth : Nat) :
    Scans (e.toDot depth).toList e.tokens := by
  obtain ⟨hscans, hend⟩ := Attrs.scans_toDot h.attrs
  have htext : (e.toDot depth).toList = (indent depth).toList ++ (e.source.toList ++
      ([' '] ++ (['-', '>'] ++ ([' '] ++ (e.target.toList ++
        (e.attrs.toDot ++ ";\n").toList))))) := by
    simp [Edge.toDot]
  rw [htext]
  refine (scans_indent depth).append
    (.name (Id.IsLexeme.isToken (.inl h.source)) ⟨' ', _, rfl, rfl⟩ ?_)
  exact (Scans.gap (c := ' ') rfl).append (Scans.arrow.append
    ((Scans.gap (c := ' ') rfl).append (.name (Id.IsLexeme.isToken (.inl h.target)) hend hscans)))

theorem scans_assign {entry : String × String}
    (h : Id.isBare entry.1 = true ∧ Id.IsLexeme entry.2) (depth : Nat) :
    Scans (indent depth ++ entry.1 ++ "=" ++ entry.2 ++ ";\n").toList (assignTokens entry) := by
  have htext : (indent depth ++ entry.1 ++ "=" ++ entry.2 ++ ";\n").toList =
      (indent depth).toList ++ ((entry.1 ++ "=" ++ entry.2).toList ++ ";\n".toList) := by
    simp
  rw [htext]
  exact (scans_indent depth).append (scans_pair h endsWord_end scans_end)

/-- Texts one after the other. -/
theorem scans_concat {α : Type} {text : α → String} {tokens : α → List Token} {xs : List α}
    (h : ∀ x ∈ xs, Scans (text x).toList (tokens x)) :
    Scans (concat (xs.map text)).toList (xs.flatMap tokens) := by
  induction xs with
  | nil => exact .nil
  | cons x xs ih =>
    rw [List.forall_mem_cons] at h
    rw [List.map_cons, concat, String.join_cons, String.toList_append, List.flatMap_cons]
    exact h.1.append (ih h.2)

-- ════════════════════════════════════════════════════════════════════════
-- Texts of blocks
-- ════════════════════════════════════════════════════════════════════════

/-- A block whose head is two words. -/
theorem scans_block {word id : String} (hword : IsToken word) (hid : IsToken id) (depth : Nat)
    {body : List Char} {tokens : List Token} (hbody : Scans body tokens) :
    Scans ((indent depth).toList ++ (word.toList ++ ([' '] ++ (id.toList ++ ([' '] ++ (['\x7b'] ++
      (['\n'] ++ (body ++ ((indent depth).toList ++ (['\x7d'] ++ ['\n']))))))))))
      (blockTokens [.name word, .name id] tokens) := by
  have hclose : Scans ((indent depth).toList ++ (['\x7d'] ++ ['\n'])) [.mark '\x7d'] :=
    (scans_indent depth).append ((Scans.mark rfl).append (.gap rfl))
  have hopen := (Scans.gap (c := ' ') rfl).append ((Scans.mark (c := '\x7b') rfl).append
    ((Scans.gap (c := '\n') rfl).append (hbody.append hclose)))
  exact (scans_indent depth).append (.name hword ⟨' ', _, rfl, rfl⟩
    ((Scans.gap (c := ' ') rfl).append (.name hid ⟨' ', _, rfl, rfl⟩ hopen)))

theorem Cluster.toDotAll_eq (depth : Nat) (cs : List Cluster) :
    Cluster.toDotAll depth cs = concat (cs.map (Cluster.toDot depth)) := by
  induction cs with
  | nil => rfl
  | cons c cs ih => rw [Cluster.toDotAll, ih, List.map_cons, concat, concat, String.join_cons]

theorem Cluster.tokensOf_eq (cs : List Cluster) :
    Cluster.tokensOf cs = cs.flatMap Cluster.tokens := by
  induction cs with
  | nil => rfl
  | cons c cs ih => rw [Cluster.tokensOf, ih, List.flatMap_cons]

theorem Cluster.scans_toDot {c : Cluster} (h : c.IsPrintable) (depth : Nat) :
    Scans (c.toDot depth).toList c.tokens := by
  -- `ih` speaks of all inner clusters, at every depth
  induction h generalizing depth with
  | @mk id attrs nodes clusters ordering hid hattrs hnodes _ hordering ih =>
    have hbody := (scans_concat fun entry hentry =>
        scans_assign (hattrs entry hentry) (depth + 1)).append
      ((scans_concat fun n hn => Node.scans_toDot (hnodes n hn) (depth + 1)).append
        ((scans_concat fun c hc => ih c hc (depth + 1)).append
          (scans_concat fun e he => Edge.scans_toDot (hordering e he).1 (depth + 1))))
    have hword : IsToken "subgraph" := .inl (by decide)
    have hblock := scans_block hword (Id.IsLexeme.isToken (.inl hid)) depth hbody
    rw [Cluster.toDot, Cluster.tokens, Cluster.toDotAll_eq, Cluster.tokensOf_eq]
    simp only [String.toList_append, List.append_assoc] at hblock ⊢
    exact hblock

theorem scans_comment {text : String} (h : '\n' ∉ text.toList) :
    Scans (indent 1 ++ "// " ++ text ++ "\n").toList [.comment (" " ++ text)] := by
  have htext : (indent 1 ++ "// " ++ text ++ "\n").toList =
      (indent 1).toList ++ ('/' :: '/' :: (' ' :: text.toList ++ ['\n'])) := by
    simp
  have hspace : '\n' ∉ ' ' :: text.toList := by simpa using h
  have hcomment := Scans.comment hspace
  have hname : String.ofList (' ' :: text.toList) = " " ++ text := by
    rw [← String.toList_inj]
    simp
  rw [htext]
  exact (scans_indent 1).append (hname ▸ hcomment)

theorem scans_part {statements : List String} {tokens : List Token}
    (h : Scans (concat statements).toList tokens) : Scans (part statements).toList tokens := by
  unfold part
  by_cases hempty : statements.isEmpty = true
  · rw [List.isEmpty_iff] at hempty
    subst hempty
    exact h
  · rw [if_neg hempty, String.toList_append]
    exact (Scans.gap (c := '\n') rfl).append h

theorem scans_separator : Scans "; ".toList [.mark ';'] :=
  (Scans.mark (c := ';') rfl).append (.gap (c := ' ') rfl)

theorem scans_ids {ids : List String} (hne : ids ≠ []) (h : ∀ id ∈ ids, Id.IsIdentifier id) :
    Scans ("; ".toList.intercalate (ids.map String.toList) ++ "; ".toList)
      (ids.flatMap fun id => nodeTokens id .empty) := by
  induction ids with
  | nil => exact absurd rfl hne
  | cons id rest ih =>
    rw [List.forall_mem_cons] at h
    have htoken : IsToken id := Id.IsLexeme.isToken (.inl h.1)
    cases rest with
    | nil =>
      have hlast := Scans.name htoken ⟨';', [' '], rfl, rfl⟩ scans_separator
      simpa [List.intercalate, nodeTokens, Attrs.tokens, Attrs.empty, Attrs.isEmpty] using hlast
    | cons next rest =>
      rw [List.map_cons, List.map_cons, List.intercalate_cons_cons, List.append_assoc,
        List.append_assoc, List.flatMap_cons]
      exact .name htoken ⟨';', _, rfl, rfl⟩ (scans_separator.append (ih (by simp) h.2))

theorem scans_rankGroup {ids : List String} (h : ∀ id ∈ ids, Id.IsIdentifier id) :
    Scans (concat (rankGroup ids)).toList (rankTokens ids) := by
  unfold rankGroup rankTokens
  by_cases hempty : ids.isEmpty = true
  · rw [if_pos hempty, if_pos hempty]
    exact .nil
  · rw [if_neg hempty, if_neg hempty]
    have hids := scans_ids (by simpa using hempty) h
    have htext : (concat [indent 1 ++ "\x7b rank=same; " ++ "; ".intercalate ids ++
        "; \x7d\n"]).toList = (indent 1).toList ++ (['\x7b'] ++ ([' '] ++
          (("rank" ++ "=" ++ "same").toList ++ ("; ".toList ++
            (("; ".toList.intercalate (ids.map String.toList) ++ "; ".toList) ++
              (['\x7d'] ++ ['\n'])))))) := by
      simp [concat, String.join_cons]
    have hclose := hids.append ((Scans.mark (c := '\x7d') rfl).append (.gap (c := '\n') rfl))
    have hsame : Id.isBare "rank" = true ∧ Id.IsLexeme "same" :=
      ⟨by decide, Id.isLexeme_of_isBare (by decide)⟩
    have hrank := @scans_pair ("rank", "same") hsame _ _ ⟨';', _, rfl, rfl⟩
      (scans_separator.append hclose)
    rw [htext]
    exact (scans_indent 1).append ((Scans.mark rfl).append
      ((Scans.gap (c := ' ') rfl).append hrank))

/-- The default attributes print well, whatever the font is. -/
theorem isPrintable_defaults (options : RenderOptions) :
    ∀ d ∈ defaults options, IsToken d.1 ∧ d.2.IsPrintable := by
  have hfont := Id.isLexeme_label options.font
  have hdirection : Id.IsLexeme options.rankDir.word := by
    cases options.rankDir <;> exact Id.isLexeme_of_isBare (by decide)
  have hwords : Id.IsLexeme "true" ∧ Id.IsLexeme "box" :=
    ⟨Id.isLexeme_of_isBare (by decide), Id.isLexeme_of_isBare (by decide)⟩
  have hnumerals : Id.IsLexeme "11" ∧ Id.IsLexeme "10" ∧ Id.IsLexeme "9" ∧ Id.IsLexeme "0.35" ∧
      Id.IsLexeme "0.25" :=
    ⟨.inr (by decide), .inr (by decide), .inr (by decide), .inr (by decide), .inr (by decide)⟩
  have hquoted : Id.IsLexeme "\"rounded,filled\"" ∧ Id.IsLexeme "\"#FFFFFF\"" :=
    ⟨.inl (.inr (by decide)), .inl (.inr (by decide))⟩
  have hkeys : ∀ key ∈ ["rankdir", "fontname", "fontsize", "compound", "newrank", "nodesep",
      "ranksep", "shape", "style", "fillcolor"], Id.isBare key = true := by decide
  simp only [List.forall_mem_cons] at hkeys
  simp only [defaults, List.forall_mem_cons, Attrs.IsPrintable, List.not_mem_nil,
    IsEmpty.forall_iff, implies_true, and_true]
  refine ⟨⟨.inl (by decide), ?_⟩, ⟨.inl (by decide), ?_⟩, .inl (by decide), ?_⟩ <;> simp_all

theorem concat_singleton (s : String) : concat [s] = s := by
  simp [concat]

theorem scans_defaults (options : RenderOptions) :
    Scans (concat ((defaults options).map defaultsToDot)).toList
      ((defaults options).flatMap fun d => nodeTokens d.1 d.2) := by
  have hdefaults := isPrintable_defaults options
  generalize defaults options = ds at hdefaults ⊢
  exact scans_concat fun d hd => scans_nodeTokens (hdefaults d hd).1 (hdefaults d hd).2

/-- The clusters of a graph, a blank line before each. -/
theorem scans_clusters {cs : List Cluster} (h : ∀ c ∈ cs, c.IsPrintable) :
    Scans (concat (cs.map fun c => part [c.toDot 1])).toList (Cluster.tokensOf cs) := by
  rw [Cluster.tokensOf_eq]
  refine scans_concat fun c hc => scans_part ?_
  rw [concat_singleton]
  exact Cluster.scans_toDot (h c hc) 1

/-- The sections of a graph. -/
theorem Graph.scans_body {g : Graph} (h : g.IsPrintable) (options : RenderOptions) :
    Scans (g.body options).toList (g.bodyTokens options) := by
  have hnodes : Scans (part (g.nodes.map (Node.toDot 1))).toList
      (g.nodes.flatMap fun n => nodeTokens n.id n.attrs) :=
    scans_part (scans_concat fun n hn => Node.scans_toDot (h.nodes n hn) 1)
  have hordering : Scans (part (g.ordering.map (Edge.toDot 1))).toList
      (g.ordering.flatMap Edge.tokens) :=
    scans_part (scans_concat fun e he => Edge.scans_toDot (h.ordering e he).1 1)
  have hranks : Scans (part (rankGroup g.sameRank)).toList (rankTokens g.sameRank) :=
    scans_part (scans_rankGroup h.sameRank)
  have hedges : Scans (part (g.edges.map (Edge.toDot 1))).toList (g.edges.flatMap Edge.tokens) :=
    scans_part (scans_concat fun e he => Edge.scans_toDot (h.edges e he).1 1)
  unfold Graph.body Graph.bodyTokens
  simp only [String.toList_append, List.append_assoc]
  exact (scans_defaults options).append (hnodes.append (hordering.append
    ((scans_clusters h.clusters).append (hranks.append hedges))))

/-- The printed text of a printable graph is made of its tokens. -/
theorem Graph.scans_toDot {g : Graph} (h : g.IsPrintable) (options : RenderOptions) :
    Scans (g.toDot options).toList (g.tokens options) := by
  have hcomments : Scans (concat (g.comments.map fun c => indent 1 ++ "// " ++ c ++ "\n")).toList
      (g.comments.map fun text => .comment (" " ++ text)) := by
    rw [List.map_eq_flatMap (f := fun text => Token.comment (" " ++ text))]
    exact scans_concat fun text htext => scans_comment (h.comments text htext)
  have hbody : Scans (if g.isEmpty then "" else g.body options).toList
      (if g.isEmpty then [] else g.bodyTokens options) := by
    split_ifs
    · exact .nil
    · exact g.scans_body h options
  have hword : IsToken "digraph" := .inl (by decide)
  have hblock := scans_block hword
    (Id.IsLexeme.isToken (.inl (Id.isIdentifier_ofName options.graphName))) 0
    (hcomments.append hbody)
  have htext : g.toDot options = indent 0 ++ ("digraph" ++ (" " ++ (Id.ofName options.graphName ++
      (" " ++ ("\x7b" ++ ("\n" ++ ((concat (g.comments.map fun c =>
        indent 1 ++ "// " ++ c ++ "\n") ++ (if g.isEmpty then "" else g.body options)) ++
          (indent 0 ++ ("\x7d" ++ "\n"))))))))) := by
    rw [← String.toList_inj]
    simp [Graph.toDot, indent]
  rw [htext]
  simp only [String.toList_append]
  exact hblock

end InfraDiagram.Dot

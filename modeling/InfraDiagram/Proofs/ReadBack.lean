import InfraDiagram.Proofs.Printing

/-!
# Printed graphs are read back

Reading the text of a printable graph gives the graph again, with everything in it in order. Only
the logical keys of its nodes are not in the text.

## Main definitions

- `Graph.eraseKeys` — a graph without the logical keys of its nodes

## Main statements

- `Graph.read?_toDot` — the text of a printable graph says this graph and nothing else
-/

namespace InfraDiagram.Dot

open Text

def Node.eraseKey (n : Node) : Node :=
  { n with key := "" }

mutual

def Cluster.eraseKeys : Cluster → Cluster
  | ⟨id, attrs, nodes, clusters, ordering⟩ =>
    ⟨id, attrs, nodes.map Node.eraseKey, Cluster.eraseKeysOf clusters, ordering⟩

def Cluster.eraseKeysOf : List Cluster → List Cluster
  | [] => []
  | c :: rest => c.eraseKeys :: Cluster.eraseKeysOf rest

end

theorem Cluster.eraseKeysOf_eq (cs : List Cluster) :
    Cluster.eraseKeysOf cs = cs.map Cluster.eraseKeys := by
  induction cs with
  | nil => rfl
  | cons c cs ih => rw [Cluster.eraseKeysOf, ih, List.map_cons]

/-- A graph without the logical keys of its nodes. -/
def Graph.eraseKeys (g : Graph) : Graph :=
  { g with
    nodes := g.nodes.map Node.eraseKey
    clusters := Cluster.eraseKeysOf g.clusters }

theorem isKeyword_of_isBare {s : String} (h : Id.isBare s = true) : isKeyword s = false := by
  simp only [Id.isBare, Bool.and_eq_true, Bool.not_eq_true'] at h
  exact h.2

theorem Id.IsIdentifier.isKeyword {s : String} (h : Id.IsIdentifier s) : isKeyword s = false := by
  rcases h with hbare | hquoted
  · exact isKeyword_of_isBare hbare
  · obtain ⟨cs, -, hs⟩ := Id.isQuoted_iff.1 hquoted
    exact Id.not_reserved_of_mem (c := '"') (by simp [hs]) (by decide) (by decide)

theorem pairsOf_pairTokens {entries : List (String × String)} (hne : entries ≠ []) :
    pairsOf (pairTokens entries) = some entries := by
  induction entries with
  | nil => exact absurd rfl hne
  | cons entry rest ih =>
    cases rest with
    | nil => rfl
    | cons next rest =>
      rw [pairTokens, pairsOf, ih (by simp)]
      · rfl
      · simp

theorem attrsOf_tokens (attrs : Attrs) : attrsOf attrs.tokens = some attrs := by
  obtain ⟨entries⟩ := attrs
  unfold Attrs.tokens
  cases entries with
  | nil => rfl
  | cons entry rest =>
    rw [if_neg (by simp [Attrs.isEmpty]), attrsOf, pairsOf_pairTokens (by simp)]
    rfl

theorem isPlain_pairTokens (entries : List (String × String)) :
    ∀ t ∈ pairTokens entries, t.isPlain = true := by
  induction entries with
  | nil => simp [pairTokens, Token.isPlain]
  | cons entry rest ih =>
    cases rest with
    | nil => simp [pairTokens, Token.isPlain]
    | cons next rest => simpa [pairTokens, Token.isPlain] using ih

theorem isPlain_attrs (attrs : Attrs) : ∀ t ∈ attrs.tokens, t.isPlain = true := by
  unfold Attrs.tokens
  split_ifs
  · simp
  · exact List.forall_mem_cons.2 ⟨rfl, isPlain_pairTokens _⟩

/-- Attributes begin with a bracket. -/
theorem tokens_cases (attrs : Attrs) :
    attrs.tokens = [] ∨ ∃ rest, attrs.tokens = .mark '[' :: rest := by
  unfold Attrs.tokens
  split_ifs
  · exact .inl rfl
  · exact .inr ⟨_, rfl⟩

/-- A word with attributes behind it is a statement about a node. -/
theorem Block.read_name (b : Block) (id : String) (attrs : Attrs) :
    b.read (.name id :: attrs.tokens) = b.addNode id attrs := by
  have hattrs := attrsOf_tokens attrs
  rcases tokens_cases attrs with h | ⟨rest, h⟩
  · rw [h] at hattrs ⊢
    simp [Block.read, hattrs]
  · rw [h] at hattrs ⊢
    simp [Block.read, hattrs]

theorem builds_name {id : String} {attrs : Attrs} {b b' : Block}
    (h : b.addNode id attrs = some b') : Builds (nodeTokens id attrs) b b' := by
  refine Builds.statement (.name id :: attrs.tokens) ?_ ((b.read_name id attrs).trans h)
  exact List.forall_mem_cons.2 ⟨rfl, isPlain_attrs attrs⟩

/-- What is added to the same list of a block one by one stands there in order. -/
theorem Builds.each {α β : Type} {tokens : α → List Token} {f : α → β} (part : List β → Block)
    (hnil : ∀ b : Block, b.plus (part []) = b)
    (happend : ∀ (b : Block) ys zs, (b.plus (part ys)).plus (part zs) = b.plus (part (ys ++ zs)))
    {xs : List α} (h : ∀ x ∈ xs, ∀ b : Block, Builds (tokens x) b (b.plus (part [f x])))
    (b : Block) : Builds (xs.flatMap tokens) b (b.plus (part (xs.map f))) := by
  induction xs generalizing b with
  | nil => exact (hnil b).symm ▸ .nil b
  | cons x xs ih =>
    rw [List.forall_mem_cons] at h
    have hrest := (h.1 b).append (ih h.2 (b.plus (part [f x])))
    rwa [happend] at hrest

theorem builds_node {id : String} (h : isKeyword id = false) (attrs : Attrs) (b : Block) :
    Builds (nodeTokens id attrs) b (b.plus { nodes := [⟨id, "", attrs⟩] }) := by
  have hdefault : ["graph", "node", "edge"].any (eqIgnoreAsciiCase id) = false := by
    simp only [isKeyword, Id.reserved, List.any_cons, Bool.or_eq_false_iff] at h
    simp [h.1, h.2.1, h.2.2.1]
  exact builds_name (by simp [Block.addNode, hdefault, h, Block.plus])

theorem builds_nodes {ns : List Node} (h : ∀ n ∈ ns, n.IsPrintable) (b : Block) :
    Builds (ns.flatMap fun n => nodeTokens n.id n.attrs) b
      (b.plus { nodes := ns.map Node.eraseKey }) :=
  .each (fun ns => { nodes := ns }) (by simp [Block.plus]) (by simp [Block.plus])
    (fun n hn => builds_node (h n hn).id.isKeyword n.attrs) b

theorem builds_default {word : String} (h : word ∈ ["graph", "node", "edge"]) (attrs : Attrs)
    (b : Block) : Builds (nodeTokens word attrs) b (b.plus { defaults := [(word, attrs)] }) := by
  have hdefault : ["graph", "node", "edge"].any (eqIgnoreAsciiCase word) = true := by
    revert word
    decide
  exact builds_name (by simp only [Block.addNode, hdefault, if_true, Block.plus])

theorem builds_defaults (options : RenderOptions) (b : Block) :
    Builds ((defaults options).flatMap fun d => nodeTokens d.1 d.2) b
      (b.plus { defaults := defaults options }) := by
  have hwords : ∀ d ∈ defaults options, d.1 ∈ ["graph", "node", "edge"] := by
    simp [defaults]
  generalize defaults options = ds at hwords
  have hbuilds := Builds.each (f := id) (fun ds => { defaults := ds }) (by simp [Block.plus])
    (by simp [Block.plus]) (fun d hd => builds_default (hwords d hd) d.2) b
  rwa [List.map_id] at hbuilds

theorem builds_assign {entry : String × String} (h : isKeyword entry.1 = false) (b : Block) :
    Builds (assignTokens entry) b (b.plus { attrs := [entry] }) := by
  refine Builds.statement [.name entry.1, .mark '=', .name entry.2] ?_ ?_
  · simp [Token.isPlain]
  · simp [Block.read, h, Block.plus]

theorem builds_attrs {attrs : Attrs} (h : attrs.IsPrintable) (b : Block) :
    Builds (attrs.entries.flatMap assignTokens) b (b.plus { attrs := attrs.entries }) := by
  have hbuilds := Builds.each (f := id) (fun entries => { attrs := entries })
    (by simp [Block.plus]) (by simp [Block.plus])
    (fun entry hentry => builds_assign (isKeyword_of_isBare (h entry hentry).1)) b
  rwa [List.map_id] at hbuilds

theorem builds_edge {e : Edge} (h : e.IsPrintable) (b : Block) :
    Builds e.tokens b (b.addEdge e) := by
  refine Builds.statement (.name e.source :: .arrow :: .name e.target :: e.attrs.tokens)
    ?_ ?_
  · simpa [Token.isPlain] using isPlain_attrs e.attrs
  · simp [Block.read, h.source.isKeyword, h.target.isKeyword, attrsOf_tokens]

theorem builds_ordering {es : List Edge} (h : ∀ e ∈ es, e.IsOrdering) (b : Block) :
    Builds (es.flatMap Edge.tokens) b (b.plus { ordering := es }) := by
  have hedge : ∀ e ∈ es, ∀ b : Block, Builds e.tokens b (b.plus { ordering := [e] }) := by
    intro e he b
    have hbuilds := builds_edge (h e he).1 b
    rwa [Block.addEdge, if_pos (h e he).2] at hbuilds
  have hbuilds := Builds.each (f := id) (fun es => { ordering := es }) (by simp [Block.plus])
    (by simp [Block.plus]) hedge b
  rwa [List.map_id] at hbuilds

theorem builds_edges {es : List Edge}
    (h : ∀ e ∈ es, e.IsPrintable ∧ e.attrs.isInvisible = false) (b : Block) :
    Builds (es.flatMap Edge.tokens) b (b.plus { edges := es }) := by
  have hedge : ∀ e ∈ es, ∀ b : Block, Builds e.tokens b (b.plus { edges := [e] }) := by
    intro e he b
    have hbuilds := builds_edge (h e he).1 b
    rwa [Block.addEdge, if_neg (by simp [(h e he).2])] at hbuilds
  have hbuilds := Builds.each (f := id) (fun es => { edges := es }) (by simp [Block.plus])
    (by simp [Block.plus]) hedge b
  rwa [List.map_id] at hbuilds

theorem builds_cluster {c : Cluster} (h : c.IsPrintable) (b : Block) :
    Builds c.tokens b (b.plus { clusters := [c.eraseKeys] }) := by
  induction h generalizing b with
  | @mk id attrs nodes clusters ordering hid hattrs hnodes _ hordering ih =>
    rw [Cluster.tokens, Cluster.tokensOf_eq, Cluster.eraseKeys, Cluster.eraseKeysOf_eq]
    have hclusters : ∀ b : Block, Builds (clusters.flatMap Cluster.tokens) b
        (b.plus { clusters := clusters.map Cluster.eraseKeys }) :=
      .each (fun cs => { clusters := cs }) (by simp [Block.plus]) (by simp [Block.plus]) ih
    refine Builds.block [.name "subgraph", .name id] (by simp [Token.isPlain])
      ((builds_attrs hattrs _).append ((builds_nodes hnodes _).append
        ((hclusters _).append (builds_ordering hordering _)))) ?_
    have hword : eqIgnoreAsciiCase "subgraph" "subgraph" = true := by decide
    simp [Block.close, Block.plus, hword, hid.isKeyword]

theorem builds_clusters {cs : List Cluster} (h : ∀ c ∈ cs, c.IsPrintable) (b : Block) :
    Builds (Cluster.tokensOf cs) b (b.plus { clusters := Cluster.eraseKeysOf cs }) := by
  rw [Cluster.tokensOf_eq, Cluster.eraseKeysOf_eq]
  exact .each (fun cs => { clusters := cs }) (by simp [Block.plus]) (by simp [Block.plus])
    (fun c hc => builds_cluster (h c hc)) b

theorem builds_rankGroup {ids : List String} (h : ∀ id ∈ ids, Id.IsIdentifier id) (b : Block) :
    Builds (rankTokens ids) b (b.plus { sameRank := ids }) := by
  unfold rankTokens
  split_ifs with hempty
  · rw [List.isEmpty_iff] at hempty
    simpa [hempty, Block.plus] using Builds.nil b
  · have hids : ∀ b : Block, Builds (ids.flatMap fun id => nodeTokens id .empty) b
        (b.plus { nodes := ids.map fun id => ⟨id, "", .empty⟩ }) :=
      .each (fun ns => { nodes := ns }) (by simp [Block.plus]) (by simp [Block.plus])
        fun id hid => builds_node (h id hid).isKeyword .empty
    -- the nodes of the inner block become the common rank of the outer one
    refine Builds.block [] (by simp)
      ((@builds_assign ("rank", "same") (by decide) _).append (hids _)) ?_
    simp [Block.close, Block.isRankGroup, Block.plus, Function.comp_def, Attrs.empty,
      Attrs.isEmpty]

/-- The sections of a graph in the outermost block. -/
theorem builds_body {g : Graph} (h : g.IsPrintable) (options : RenderOptions)
    (head : List Token) :
    Builds (g.bodyTokens options) { head }
      ⟨head, [], defaults options, g.eraseKeys.nodes, g.eraseKeys.clusters, g.ordering, g.edges,
        g.sameRank⟩ := by
  have hbody := (builds_defaults options { head }).append ((builds_nodes h.nodes _).append
    ((builds_ordering h.ordering _).append ((builds_clusters h.clusters _).append
      ((builds_rankGroup h.sameRank _).append (builds_edges h.edges _)))))
  simpa [Graph.bodyTokens, Block.plus, Graph.eraseKeys] using hbody

theorem commentText_space (text : String) : commentText (" " ++ text) = text := by
  simp [commentText]

theorem feedAll_comments (texts : List String) (blocks : List Block) (comments : List String) :
    Reader.feedAll ⟨blocks, [], comments, none⟩ (texts.map fun text => .comment (" " ++ text)) =
      some ⟨blocks, [], comments ++ texts, none⟩ := by
  induction texts generalizing comments with
  | nil => simp [Reader.feedAll]
  | cons text texts ih =>
    rw [List.map_cons, Reader.feedAll_cons ⟨blocks, [], comments ++ [text], none⟩, ih]
    · simp
    · simp [Reader.feed, commentText_space]

/-- What a program sets as defaults: an empty graph sets none. -/
def Graph.programDefaults (g : Graph) (options : RenderOptions) : List (String × Attrs) :=
  if g.isEmpty then [] else defaults options

/-- Where there is anything on a common rank, there is something to draw. -/
def Graph.RanksNodes (g : Graph) : Prop :=
  g.isEmpty = true → g.sameRank = []

theorem builds_program {g : Graph} (h : g.IsPrintable) (hranks : g.RanksNodes)
    (options : RenderOptions) (head : List Token) :
    Builds (if g.isEmpty then [] else g.bodyTokens options) { head }
      ⟨head, [], g.programDefaults options, g.eraseKeys.nodes, g.eraseKeys.clusters, g.ordering,
        g.edges, g.sameRank⟩ := by
  unfold Graph.programDefaults
  split_ifs with hempty
  · -- the printer leaves out an empty graph's rank group, so there must be none
    have hrank := hranks hempty
    simp only [Graph.isEmpty, Bool.and_eq_true, List.isEmpty_iff] at hempty
    obtain ⟨⟨⟨hnodes, hclusters⟩, hedges⟩, hordering⟩ := hempty
    simpa [Graph.eraseKeys, Cluster.eraseKeysOf, hnodes, hclusters, hedges, hordering, hrank]
      using Builds.nil { head }
  · exact builds_body h options head

/-- The text of a printable graph says this graph and nothing else. -/
theorem Graph.read?_toDot {g : Graph} (h : g.IsPrintable) (hranks : g.RanksNodes)
    (options : RenderOptions) :
    Program.read? (g.toDot options) =
      some ⟨Id.ofName options.graphName, g.programDefaults options, g.eraseKeys⟩ := by
  have hname := (Id.isIdentifier_ofName options.graphName).isKeyword
  have hword : eqIgnoreAsciiCase "digraph" "digraph" = true := by decide
  have hbody := builds_program h hranks options
    [.name "digraph", .name (Id.ofName options.graphName)]
  rw [Program.read?, (g.scans_toDot h options).scan_eq, Option.bind_some, Graph.tokens,
    blockTokens, Reader.feedAll_append, Reader.start,
    Reader.feedAll_plain (by simp [Token.isPlain]), Option.bind_some, List.nil_append,
    Reader.feedAll_cons ⟨[{ head := _ }], [], [], none⟩ rfl, List.append_assoc,
    Reader.feedAll_append, feedAll_comments, Option.bind_some, List.nil_append,
    Reader.feedAll_append, hbody, Option.bind_some]
  simp [Reader.feedAll, Reader.feed, Reader.closeBlock, Block.program, hword, hname,
    Reader.finish, Graph.eraseKeys]

end InfraDiagram.Dot

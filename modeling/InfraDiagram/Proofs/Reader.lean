import InfraDiagram.Dot.Printer
import InfraDiagram.Proofs.Tokens

/-!
# Reading DOT programs

A reader that turns the tokens of a DOT program back into a graph, statement by statement, with a
stack of the blocks that are open.

## Main definitions

- `Program` — a graph with its name and its default attributes
- `Block` — what was read of a block so far
- `Reader.feed` — what one token does to the reader
- `Program.read?` — the program that a text says

## Main statements

- `Builds.statement`, `Builds.block` — what statements and inner blocks add to a block

## Design notes

Nodes carry no logical keys in a program, so the reader leaves them empty. An edge whose style is
`invis` orders its ends; the others are visible.
-/

namespace InfraDiagram.Dot

open Text

/-- A program: its name, the default attributes it sets, and its graph. -/
structure Program where
  name : String
  defaults : List (String × Attrs)
  graph : Graph

/-- What was read of a block. -/
structure Block where
  /-- What stands before the opening brace. -/
  head : List Token := []
  attrs : List (String × String) := []
  defaults : List (String × Attrs) := []
  nodes : List Node := []
  clusters : List Cluster := []
  ordering : List Edge := []
  edges : List Edge := []
  sameRank : List String := []

/-- Words that name no node, in any case. -/
def isKeyword (s : String) : Bool :=
  Id.reserved.any (eqIgnoreAsciiCase s)

def pairsOf : List Token → Option (List (String × String))
  | [.name k, .mark '=', .name v, .mark ']'] => some [(k, v)]
  | .name k :: .mark '=' :: .name v :: .mark ',' :: rest => (pairsOf rest).map ((k, v) :: ·)
  | _ => none

def attrsOf : List Token → Option Attrs
  | [] => some .empty
  | .mark '[' :: rest => (pairsOf rest).map Attrs.mk
  | _ => none

namespace Block

/-- A block with all that another one holds behind what it holds itself. -/
def plus (b more : Block) : Block where
  head := b.head
  attrs := b.attrs ++ more.attrs
  defaults := b.defaults ++ more.defaults
  nodes := b.nodes ++ more.nodes
  clusters := b.clusters ++ more.clusters
  ordering := b.ordering ++ more.ordering
  edges := b.edges ++ more.edges
  sameRank := b.sameRank ++ more.sameRank

/-- The block with another node, or with other defaults if the word says so. -/
def addNode (b : Block) (id : String) (attrs : Attrs) : Option Block :=
  if ["graph", "node", "edge"].any (eqIgnoreAsciiCase id) then
    some (b.plus { defaults := [(id, attrs)] })
  else if isKeyword id then none
  else some (b.plus { nodes := [⟨id, "", attrs⟩] })

def addEdge (b : Block) (e : Edge) : Block :=
  b.plus (if e.attrs.isInvisible then { ordering := [e] } else { edges := [e] })

def read (b : Block) : List Token → Option Block
  | [.name k, .mark '=', .name v] =>
    if isKeyword k then none else some (b.plus { attrs := [(k, v)] })
  | .name source :: .arrow :: .name target :: rest =>
    if isKeyword source || isKeyword target then none
    else (attrsOf rest).map fun attrs => b.addEdge ⟨source, target, attrs⟩
  | .name id :: rest => (attrsOf rest).bind (b.addNode id)
  | _ => none

/-- Nothing but a common rank and the nodes on it. -/
def isRankGroup (b : Block) : Bool :=
  b.attrs == [("rank", "same")] && b.nodes.all (·.attrs.isEmpty) && b.defaults.isEmpty &&
    b.clusters.isEmpty && b.ordering.isEmpty && b.edges.isEmpty && b.sameRank.isEmpty

/-- The block with an inner block that was closed: a group of equal rank, or a cluster. -/
def close (outer inner : Block) : Option Block :=
  match inner.head with
  | [] =>
    if inner.isRankGroup then
      some (outer.plus { sameRank := inner.nodes.map (·.id) })
    else none
  | [.name word, .name id] =>
    if eqIgnoreAsciiCase word "subgraph" && !isKeyword id && inner.defaults.isEmpty &&
        inner.edges.isEmpty && inner.sameRank.isEmpty then
      some (outer.plus {
        clusters := [⟨id, ⟨inner.attrs⟩, inner.nodes, inner.clusters, inner.ordering⟩] })
    else none
  | _ => none

def program (b : Block) : Option Program :=
  match b.head with
  | [.name word, .name id] =>
    if eqIgnoreAsciiCase word "digraph" && !isKeyword id && b.attrs.isEmpty then
      some ⟨id, b.defaults, ⟨[], b.nodes, b.ordering, b.clusters, b.sameRank, b.edges⟩⟩
    else none
  | _ => none

end Block

/-- The state of the reader. -/
structure Reader where
  /-- Open blocks, the innermost first. -/
  blocks : List Block
  /-- The tokens of the unfinished statement. -/
  pending : List Token
  comments : List String
  /-- The program, once its outermost block is closed. -/
  result : Option Program

/-- The text of a comment without the space in front of it. -/
def commentText (text : String) : String :=
  match text.toList with
  | ' ' :: cs => String.ofList cs
  | cs => String.ofList cs

namespace Reader

def start : Reader :=
  ⟨[], [], [], none⟩

def closeBlock (r : Reader) : Option Reader :=
  match r.pending, r.blocks with
  | [], [root] => root.program.map fun p => { r with blocks := [], result := some p }
  | [], inner :: outer :: rest =>
    (outer.close inner).map fun b => { r with blocks := b :: rest }
  | _, _ => none

def endStatement (r : Reader) : Option Reader :=
  match r.blocks with
  | b :: rest => (b.read r.pending).map fun b => { r with blocks := b :: rest, pending := [] }
  | [] => none

/-- What a token does to the reader. Behind the program only comments may stand. -/
def feed (r : Reader) (t : Token) : Option Reader :=
  match t, r.result with
  | .comment text, _ => some { r with comments := r.comments ++ [commentText text] }
  | _, some _ => none
  | .mark '\x7b', none =>
    some { r with blocks := { head := r.pending } :: r.blocks, pending := [] }
  | .mark '\x7d', none => r.closeBlock
  | .mark ';', none => r.endStatement
  | t, none => some { r with pending := r.pending ++ [t] }

def feedAll (r : Reader) (ts : List Token) : Option Reader :=
  ts.foldlM feed r

def finish (r : Reader) : Option Program :=
  r.result.map fun p => { p with graph := { p.graph with comments := r.comments } }

end Reader

/-- The program that a text says, if it says one to its last character. -/
def Program.read? (text : String) : Option Program :=
  (scan text).bind fun ts => (Reader.start.feedAll ts).bind Reader.finish

/-- A token that goes on a statement. -/
def Token.isPlain : Token → Bool
  | .name _ | .arrow => true
  | .mark c => c ≠ '\x7b' && c ≠ '\x7d' && c ≠ ';'
  | .comment _ => false

namespace Reader

theorem feedAll_append (r : Reader) (ts ts' : List Token) :
    r.feedAll (ts ++ ts') = (r.feedAll ts).bind fun r' => r'.feedAll ts' :=
  List.foldlM_append

theorem feedAll_cons {r : Reader} {t : Token} (r' : Reader) (h : r.feed t = some r')
    (ts : List Token) :
    r.feedAll (t :: ts) = r'.feedAll ts := by
  rw [feedAll, List.foldlM_cons, h]
  rfl

theorem feed_plain {t : Token} (h : t.isPlain = true) (blocks : List Block)
    (pending : List Token) (comments : List String) :
    feed ⟨blocks, pending, comments, none⟩ t =
      some ⟨blocks, pending ++ [t], comments, none⟩ := by
  cases t with
  | mark c =>
    simp only [Token.isPlain, Bool.and_eq_true, decide_eq_true_eq] at h
    unfold feed
    split <;> simp_all
  | comment text => cases h
  | _ => rfl

theorem feedAll_plain {ts : List Token} (h : ∀ t ∈ ts, t.isPlain = true) (blocks : List Block)
    (pending : List Token) (comments : List String) :
    feedAll ⟨blocks, pending, comments, none⟩ ts =
      some ⟨blocks, pending ++ ts, comments, none⟩ := by
  induction ts generalizing pending with
  | nil => simp [feedAll]
  | cons t ts ih =>
    rw [List.forall_mem_cons] at h
    rw [feedAll_cons _ (feed_plain h.1 ..), ih h.2, List.append_assoc]
    rfl

end Reader

/-- Inside of any blocks, the tokens turn the innermost block into another one. -/
def Builds (ts : List Token) (b b' : Block) : Prop :=
  ∀ blocks comments, Reader.feedAll ⟨b :: blocks, [], comments, none⟩ ts =
    some ⟨b' :: blocks, [], comments, none⟩

namespace Builds

theorem nil (b : Block) : Builds [] b b :=
  fun _ _ => rfl

theorem append {ts ts' : List Token} {b b' b'' : Block} (h : Builds ts b b')
    (h' : Builds ts' b' b'') : Builds (ts ++ ts') b b'' := by
  intro blocks comments
  rw [Reader.feedAll_append, h]
  exact h' blocks comments

theorem statement {b b' : Block} (ts : List Token) (hplain : ∀ t ∈ ts, t.isPlain = true)
    (h : b.read ts = some b') : Builds (ts ++ [.mark ';']) b b' := by
  intro blocks comments
  rw [Reader.feedAll_append, Reader.feedAll_plain hplain]
  change Reader.feedAll ⟨b :: blocks, ts, comments, none⟩ [.mark ';'] = _
  rw [Reader.feedAll_cons ⟨b' :: blocks, [], comments, none⟩]
  · rfl
  · simp [Reader.feed, Reader.endStatement, h]

theorem block (head : List Token) {ts : List Token} {inner outer outer' : Block}
    (hplain : ∀ t ∈ head, t.isPlain = true) (hinner : Builds ts { head } inner)
    (hclose : outer.close inner = some outer') :
    Builds (head ++ .mark '\x7b' :: (ts ++ [.mark '\x7d'])) outer outer' := by
  intro blocks comments
  rw [Reader.feedAll_append, Reader.feedAll_plain hplain]
  change Reader.feedAll ⟨outer :: blocks, head, comments, none⟩ _ = _
  rw [Reader.feedAll_cons ⟨{ head } :: outer :: blocks, [], comments, none⟩ rfl,
    Reader.feedAll_append, hinner]
  change Reader.feedAll ⟨inner :: outer :: blocks, [], comments, none⟩ [.mark '\x7d'] = _
  rw [Reader.feedAll_cons ⟨outer' :: blocks, [], comments, none⟩]
  · rfl
  · simp [Reader.feed, Reader.closeBlock, hclose]

end Builds

end InfraDiagram.Dot

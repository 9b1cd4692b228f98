import InfraDiagram.Diagram.Layout
import InfraDiagram.Proofs.Bookkeeping

/-!
# What a drawing program adds to the graph

A drawing program only ever appends to the innermost open cluster: nodes, closed clusters and
ordering edges. What it appends is a layer, and layers of parts that follow each other are stacked.
Visible edges are left out of account here, since they belong to no cluster.

## Main definitions

- `Lays` — from every canvas on which some identifiers are declared, a program appends a layer
  which, with its result, satisfies a postcondition

## Main statements

- `Lays.bind`, `Lays.mapM`, `Lays.inCluster` — the rules for composed programs
- `Lays.declare`, `lays_orderChain` — single nodes, and nodes below each other
- `Lays.at_top` — what is drawn where no cluster is open
-/

namespace InfraDiagram

open Dot

namespace Canvas

theorem declared_placeOrdering (c : Canvas) (e : Edge) :
    (c.placeOrdering e).declared = c.declared :=
  congrArg Books.declared (c.books_placeOrdering e)

theorem declared_closeCluster (c : Canvas) : c.closeCluster.declared = c.declared :=
  congrArg Books.declared c.books_closeCluster

end Canvas

/-- From every canvas on which `needs` are declared, the program appends a layer to the innermost
    open cluster, declares the nodes of this layer, and satisfies `post` with it. -/
def Lays {α : Type} (needs : List String) (m : Draw α) (post : Layer → α → Prop) : Prop :=
  ∀ c : Canvas, (∀ id ∈ needs, id ∈ c.declared) →
    ∃ l, (m c).2.outline = c.outline.grow l ∧
      (∀ id, id ∈ l.ids ∨ id ∈ c.declared → id ∈ (m c).2.declared) ∧ post l (m c).1

/-- The items of a traversal, the layer of the whole and the results, where each item, its layer and
    its result are related. -/
inductive Stacks {α β : Type} (R : α → Layer → β → Prop) : List α → Layer → List β → Prop where
  | nil : Stacks R [] .empty []
  | cons {x : α} {l : Layer} {y : β} {xs : List α} {ls : Layer} {ys : List β} (h : R x l y)
      (hs : Stacks R xs ls ys) : Stacks R (x :: xs) (l ++ ls) (y :: ys)

namespace Lays

variable {α β : Type} {needs : List String}

theorem mono {m : Draw α} {post post' : Layer → α → Prop} (h : Lays needs m post)
    (hpost : ∀ l a, post l a → post' l a) : Lays needs m post' := by
  intro c hc
  obtain ⟨l, houtline, hdeclared, hl⟩ := h c hc
  exact ⟨l, houtline, hdeclared, hpost _ _ hl⟩

theorem weaken {m : Draw α} {post : Layer → α → Prop} {needs' : List String}
    (h : Lays needs m post) (hsub : ∀ id ∈ needs, id ∈ needs') : Lays needs' m post :=
  fun c hc => h c fun id hid => hc id (hsub id hid)

/-- A program that leaves nodes, clusters and ordering edges as they are. -/
theorem nothing {m : Draw α} {post : Layer → α → Prop}
    (houtline : ∀ c : Canvas, (m c).2.outline = c.outline)
    (hdeclared : ∀ c : Canvas, (m c).2.declared = c.declared)
    (hpost : ∀ c : Canvas, post .empty (m c).1) : Lays needs m post := by
  intro c _
  refine ⟨.empty, by rw [houtline, Outline.grow_empty], ?_, hpost c⟩
  rw [hdeclared]
  rintro id (hid | hid)
  · cases hid
  · exact hid

theorem pure {a : α} {post : Layer → α → Prop} (h : post .empty a) :
    Lays needs (Pure.pure a : Draw α) post :=
  nothing (fun _ => rfl) (fun _ => rfl) fun _ => h

theorem bind {m : Draw α} {f : α → Draw β} {post : Layer → α → Prop} {post' : Layer → β → Prop}
    (hm : Lays needs m post)
    (hf : ∀ l a, post l a → Lays (l.ids ++ needs) (f a) fun l' b => post' (l ++ l') b) :
    Lays needs (m >>= f) post' := by
  intro c hc
  obtain ⟨l, houtline, hdeclared, hl⟩ := hm c hc
  -- what `m` declares is at hand by the time `f` starts
  have hc' : ∀ id ∈ l.ids ++ needs, id ∈ (m c).2.declared := by
    intro id hid
    exact hdeclared id ((List.mem_append.1 hid).imp_right (hc id))
  obtain ⟨l', houtline', hdeclared', hl'⟩ := hf l (m c).1 hl (m c).2 hc'
  refine ⟨l ++ l', ?_, ?_, hl'⟩
  · rw [← Outline.grow_grow, ← houtline]
    exact houtline'
  · intro id hid
    apply hdeclared' id
    rw [Layer.mem_ids_append] at hid
    rcases hid with (hid | hid) | hid
    · exact .inr (hdeclared id (.inl hid))
    · exact .inl hid
    · exact .inr (hdeclared id (.inr hid))

theorem map {m : Draw α} {f : α → β} {post : Layer → α → Prop} {post' : Layer → β → Prop}
    (hm : Lays needs m post) (hf : ∀ l a, post l a → post' l (f a)) :
    Lays needs (m >>= fun a => Pure.pure (f a)) post' :=
  hm.bind fun l a h => Lays.pure ((l.append_empty).symm ▸ hf l a h)

theorem mapM {f : α → Draw β} {R : α → Layer → β → Prop} {xs : List α}
    (h : ∀ x ∈ xs, Lays needs (f x) (R x)) : Lays needs (xs.mapM f) (Stacks R xs) := by
  induction xs with
  | nil => exact Lays.pure .nil
  | cons x xs ih =>
    rw [List.mapM_cons]
    refine (h x (by simp)).bind fun l y hy => ?_
    have hrest : Lays (l.ids ++ needs) (xs.mapM f) (Stacks R xs) :=
      (ih fun x' hx' => h x' (by simp [hx'])).weaken fun id hid => List.mem_append_right _ hid
    exact hrest.map fun ls ys hys => .cons hy hys

theorem declare (d : Declaration) :
    Lays needs (InfraDiagram.declare d)
      fun l id => l = .ofNode ⟨id, d.key, Canvas.nodeAttrs d⟩ := by
  intro c _
  refine ⟨.ofNode ⟨(InfraDiagram.declare d c).1, d.key, Canvas.nodeAttrs d⟩,
    c.outline_declareNode d, ?_, rfl⟩
  have hdeclared : (InfraDiagram.declare d c).2.declared =
      (InfraDiagram.declare d c).1 :: c.declared := Event.declared_apply c (.node d)
  rw [hdeclared]
  rintro id (hid | hid)
  · obtain ⟨n, hn, rfl⟩ := List.mem_map.1 hid
    rw [List.mem_singleton.1 hn]
    exact List.mem_cons_self
  · exact List.mem_cons_of_mem _ hid

/-- Visible edges are not part of a layer. -/
theorem edge (source target : String) (attrs : Attrs) :
    Lays needs (InfraDiagram.edge source target attrs) fun l _ => l = .empty := by
  apply nothing
  · intro c
    rw [edge_apply]
    split_ifs <;> rfl
  · intro c
    exact Event.declared_apply c (.edge source target attrs)
  · exact fun _ => rfl

theorem orderingEdge {source target : String} (hs : source ∈ needs) (ht : target ∈ needs) :
    Lays needs (InfraDiagram.orderingEdge source target) fun l _ =>
      l = .ofOrdering [⟨source, target, Attrs.empty.raw "style" "invis"⟩] := by
  intro c hc
  rw [orderingEdge_apply, if_pos ⟨hc _ hs, hc _ ht⟩]
  refine ⟨_, c.outline_placeOrdering _, ?_, rfl⟩
  rintro id (hid | hid)
  · cases hid
  · rwa [Canvas.declared_placeOrdering]

theorem inCluster {key : String} {attrs : Attrs} {body : Draw α} {post : Layer → α → Prop}
    (h : Lays needs body fun l a =>
      ∀ id, post (.ofCluster ⟨id, attrs, l.nodes, l.clusters, l.ordering⟩) a) :
    Lays needs (InfraDiagram.inCluster key attrs body) post := by
  intro c hc
  obtain ⟨l, houtline, hdeclared, hl⟩ := h (c.openCluster key attrs) hc
  have hopen := c.outline_openCluster key attrs
  generalize (c.clusterIds.choose ("cluster_" ++ key)).1 = id at hopen
  refine ⟨.ofCluster ⟨id, attrs, l.nodes, l.clusters, l.ordering⟩, ?_, ?_, hl id⟩
  · change (body (c.openCluster key attrs)).2.closeCluster.outline = _
    rw [Canvas.outline_closeCluster, houtline, hopen, Outline.close_grow_open]
  · intro other hother
    change other ∈ (body (c.openCluster key attrs)).2.closeCluster.declared
    rw [Canvas.declared_closeCluster]
    rw [Layer.ids_ofCluster] at hother
    exact hdeclared other hother

end Lays

/-- All nodes, clusters and ordering edges of a canvas without open clusters. -/
def Canvas.layer (c : Canvas) : Layer :=
  ⟨c.graph.nodes, c.graph.clusters, c.graph.ordering⟩

/-- A layer that is appended where no cluster is open. -/
theorem Lays.at_top {α : Type} {m : Draw α} {post : Layer → α → Prop} (h : Lays [] m post)
    {c : Canvas} (hscopes : c.scopes = []) :
    (m c).2.scopes = [] ∧ ∃ l, (m c).2.layer = c.layer ++ l ∧ post l (m c).1 := by
  obtain ⟨l, houtline, -, hl⟩ := h c (by simp)
  have hgrown : c.outline.grow l =
      ⟨{ c.outline.graph with
          nodes := c.outline.graph.nodes ++ l.nodes
          clusters := c.outline.graph.clusters ++ l.clusters
          ordering := c.outline.graph.ordering ++ l.ordering }, []⟩ := by
    unfold Outline.grow Canvas.outline
    rw [hscopes]
  rw [hgrown] at houtline
  have hgraph := congrArg Outline.graph houtline
  exact ⟨congrArg Outline.scopes houtline, l,
    congrArg (fun g : Graph => Layer.mk g.nodes g.clusters g.ordering) hgraph, hl⟩

/-- The invisible edges between neighbours. -/
def chain (ids : List String) : List Edge :=
  (neighbours ids).map fun pair => ⟨pair.1, pair.2, Attrs.empty.raw "style" "invis"⟩

theorem lays_orderChain {needs ids : List String} (h : ∀ id ∈ ids, id ∈ needs) :
    Lays needs (orderChain ids) fun l _ => l = .ofOrdering (chain ids) := by
  -- the induction is on the pairs, whose identifiers stay at hand
  have hpairs : ∀ (pairs : List (String × String)) (needs : List String),
      (∀ pair ∈ pairs, pair.1 ∈ needs ∧ pair.2 ∈ needs) →
      Lays needs (pairs.forM fun pair => orderingEdge pair.1 pair.2) fun l _ =>
        l = .ofOrdering (pairs.map fun pair =>
          ⟨pair.1, pair.2, Attrs.empty.raw "style" "invis"⟩) := by
    intro pairs
    induction pairs with
    | nil => exact fun _ _ => .pure rfl
    | cons pair pairs ih =>
      intro needs hneeds
      obtain ⟨hpair, hpairs⟩ := List.forall_mem_cons.1 hneeds
      refine (Lays.orderingEdge hpair.1 hpair.2).bind fun l _ hl => ?_
      refine (ih (l.ids ++ needs) fun other hother => ?_).mono fun l' _ hl' => ?_
      · exact (hpairs other hother).imp (List.mem_append_right _) (List.mem_append_right _)
      · rw [hl, hl']
        rfl
  exact hpairs _ needs fun pair hpair =>
    ⟨h _ (List.of_mem_zip hpair).1, h _ (List.mem_of_mem_tail (List.of_mem_zip hpair).2)⟩

end InfraDiagram

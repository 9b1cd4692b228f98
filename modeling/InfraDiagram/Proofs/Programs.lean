import InfraDiagram.Diagram.Layout
import InfraDiagram.Proofs.Steps

/-!
# Hoare-style specifications for drawing programs

A drawing program makes a sequence of steps that depends on the identifiers it is given on the
way. A specification says which log the steps leave behind together with the result.

## Main definitions

- `Draws` — from every canvas on which some identifiers are declared, a program makes admissible
  steps whose log and whose result satisfy a postcondition
- `Each` — a relation between the items, the logs and the results of a traversal

## Main statements

- `Draws.bind`, `Draws.mapM`, `Draws.inCluster` — the rules for composed programs
- `draws_orderChain`, `draws_sideBySide` — layout draws nothing visible

## Design notes

The identifiers that a program needs are fixed before it runs. Those that an earlier part of it
was given are declared when the later part starts, so `Draws.bind` adds them.
-/

namespace InfraDiagram

open Dot

/-- From every canvas on which `needs` are declared, the program makes admissible steps, and their
    log and the result satisfy `post`. -/
def Draws {α : Type} (needs : List String) (m : Draw α) (post : Log → α → Prop) : Prop :=
  ∀ c : Canvas, (∀ id ∈ needs, id ∈ c.declared) →
    ∃ es, (m c).2 = run es c ∧ Admits es c ∧ post (logOf es c) (m c).1

/-- The items of a traversal, the log of the whole and the results, where each item, its log and
    its result are related. -/
inductive Each {α β : Type} (R : α → Log → β → Prop) : List α → Log → List β → Prop where
  | nil : Each R [] .empty []
  | cons {x : α} {l : Log} {y : β} {xs : List α} {ls : Log} {ys : List β} (h : R x l y)
      (hs : Each R xs ls ys) : Each R (x :: xs) (l ++ ls) (y :: ys)

namespace Draws

variable {α β : Type} {needs : List String}

theorem mono {m : Draw α} {post post' : Log → α → Prop} (h : Draws needs m post)
    (hpost : ∀ l a, post l a → post' l a) : Draws needs m post' := by
  intro c hc
  obtain ⟨es, hrun, hes, hlog⟩ := h c hc
  exact ⟨es, hrun, hes, hpost _ _ hlog⟩

theorem weaken {m : Draw α} {post : Log → α → Prop} {needs' : List String}
    (h : Draws needs m post) (hsub : ∀ id ∈ needs, id ∈ needs') : Draws needs' m post :=
  fun c hc => h c fun id hid => hc id (hsub id hid)

theorem pure {a : α} {post : Log → α → Prop} (h : post .empty a) :
    Draws needs (Pure.pure a : Draw α) post :=
  fun _ _ => ⟨[], rfl, trivial, h⟩

theorem bind {m : Draw α} {f : α → Draw β} {post : Log → α → Prop} {post' : Log → β → Prop}
    (hm : Draws needs m post)
    (hf : ∀ l a, post l a → Draws (l.ids ++ needs) (f a) fun l' b => post' (l ++ l') b) :
    Draws needs (m >>= f) post' := by
  intro c hc
  obtain ⟨es, hrun, hes, hlog⟩ := hm c hc
  -- what `m` was given is declared by the time `f` starts
  have hc' : ∀ id ∈ (logOf es c).ids ++ needs, id ∈ (run es c).declared := by
    intro id hid
    rw [mem_declared_run]
    exact (List.mem_append.1 hid).imp_right (hc id)
  obtain ⟨es', hrun', hes', hlog'⟩ := hf _ _ hlog (run es c) hc'
  refine ⟨es ++ es', ?_, admits_append.2 ⟨hes, hes'⟩, ?_⟩
  · rw [run_append, ← hrun', ← hrun]
    rfl
  · rw [logOf_append]
    rw [← hrun] at hlog' ⊢
    exact hlog'

theorem map {m : Draw α} {f : α → β} {post : Log → α → Prop} {post' : Log → β → Prop}
    (hm : Draws needs m post) (hf : ∀ l a, post l a → post' l (f a)) :
    Draws needs (m >>= fun a => Pure.pure (f a)) post' :=
  hm.bind fun l a h => Draws.pure ((l.append_empty).symm ▸ hf l a h)

theorem mapM {f : α → Draw β} {R : α → Log → β → Prop} {xs : List α}
    (h : ∀ x ∈ xs, Draws needs (f x) (R x)) : Draws needs (xs.mapM f) (Each R xs) := by
  induction xs with
  | nil => exact Draws.pure .nil
  | cons x xs ih =>
    rw [List.mapM_cons]
    refine (h x (by simp)).bind fun l y hy => ?_
    have hrest : Draws (l.ids ++ needs) (xs.mapM f) (Each R xs) :=
      (ih fun x' hx' => h x' (by simp [hx'])).weaken fun id hid => List.mem_append_right _ hid
    exact hrest.map fun ls ys hys => .cons hy hys

/-- Steps that leave no log leave none when they are repeated. -/
theorem forM_empty {f : α → Draw PUnit} {xs : List α}
    (h : ∀ x ∈ xs, Draws needs (f x) fun l _ => l = .empty) :
    Draws needs (xs.forM f) fun l _ => l = .empty := by
  induction xs with
  | nil => exact Draws.pure rfl
  | cons x xs ih =>
    change Draws needs (f x >>= fun _ => xs.forM f) _
    refine (h x (by simp)).bind fun l y hl => ?_
    rw [hl]
    exact ih fun x' hx' => h x' (by simp [hx'])

/-- A program that makes a single step. -/
theorem step {m : Draw α} {post : Log → α → Prop} (e : Event)
    (happly : ∀ c, (m c).2 = e.apply c)
    (h : ∀ c : Canvas, (∀ id ∈ needs, id ∈ c.declared) →
      e.Admissible c ∧ post (e.log c) (m c).1) : Draws needs m post :=
  fun c hc => ⟨[e], happly c, ⟨(h c hc).1, trivial⟩, by
    rw [logOf, logOf, Log.append_empty]
    exact (h c hc).2⟩

theorem declare {d : Declaration} (h : d.attrs.IsPrintable) :
    Draws needs (InfraDiagram.declare d) fun l id => l = ⟨[(d, id)], [], []⟩ :=
  step (.node d) (fun _ => rfl) fun _ _ => ⟨h, rfl⟩

theorem edge {source target : String} {attrs : Attrs} (hs : source ∈ needs)
    (ht : target ∈ needs) (hattrs : attrs.IsPrintable) (hvisible : attrs.isInvisible = false) :
    Draws needs (InfraDiagram.edge source target attrs)
      fun l _ => l = ⟨[], [⟨source, target, attrs⟩], []⟩ :=
  step (.edge source target attrs) (fun _ => rfl) fun _ hc =>
    ⟨⟨hc _ hs, hc _ ht, hattrs, hvisible⟩, rfl⟩

theorem orderingEdge {source target : String} (hs : source ∈ needs) (ht : target ∈ needs) :
    Draws needs (InfraDiagram.orderingEdge source target) fun l _ => l = .empty :=
  step (.ordering source target) (fun _ => rfl) fun _ hc => ⟨⟨hc _ hs, hc _ ht⟩, rfl⟩

theorem sameRank (ids : List String) :
    Draws needs (InfraDiagram.sameRank ids) fun l _ => l = .empty :=
  step (.sameRank ids) (fun _ => rfl) fun _ _ => ⟨trivial, rfl⟩

theorem comment (text : String) :
    Draws needs (InfraDiagram.comment text) fun l _ => l = .empty :=
  step (.comment text) (fun _ => rfl) fun _ _ => ⟨trivial, rfl⟩

theorem warn (d : Diagnostic) :
    Draws needs (InfraDiagram.warn d) fun l _ => l = ⟨[], [], [d]⟩ :=
  step (.warn d) (fun _ => rfl) fun _ _ => ⟨trivial, rfl⟩

theorem inCluster {key : String} {attrs : Attrs} {body : Draw α} {post : Log → α → Prop}
    (hattrs : attrs.IsPrintable) (h : Draws needs body post) :
    Draws needs (InfraDiagram.inCluster key attrs body) post := by
  intro c hc
  obtain ⟨es, hrun, hes, hlog⟩ := h (c.openCluster key attrs) hc
  refine ⟨.opening key attrs :: (es ++ [.closing]), ?_, ⟨hattrs, ?_⟩, ?_⟩
  · rw [run_cons, run_append]
    exact congrArg Canvas.closeCluster hrun
  · exact admits_append.2 ⟨hes, trivial, trivial⟩
  · have hempty : logOf [.closing] (run es (c.openCluster key attrs)) = .empty := rfl
    rw [logOf, logOf_append]
    exact (Log.append_empty _).symm ▸ hlog

end Draws

theorem draws_orderChain {needs ids : List String} (h : ∀ id ∈ ids, id ∈ needs) :
    Draws needs (orderChain ids) fun l _ => l = .empty :=
  Draws.forM_empty fun _ hpair =>
    .orderingEdge (h _ (List.of_mem_zip hpair).1)
      (h _ (List.mem_of_mem_tail (List.of_mem_zip hpair).2))

theorem draws_sideBySide {needs : List String} (ids : List String) :
    Draws needs (sideBySide ids) fun l _ => l = .empty := by
  unfold sideBySide
  split_ifs
  · exact .sameRank ids
  · exact .pure rfl

end InfraDiagram

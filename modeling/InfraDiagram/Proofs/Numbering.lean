import InfraDiagram.Proofs.Bookkeeping
import Mathlib.Order.Bounds.Basic

/-!
# Numbers of identifiers

A name whose identifier is taken is tried with one number after the other, from two upwards. The
loop has no bound of its own: it ends because the numbered identifiers all differ and only so many
identifiers were handed out.

## Main definitions

- `Search` — the loop from one number to another
- `IdPool.Reached` — the pools that come about by handing out identifiers
- `IdPool.HandsOut` — what a pool makes of a key
- `Canvas.Reports` — what a canvas tells about the identifier of a declaration

## Main statements

- `search_iff` — the loop ends at the least number with a free name, and nowhere else
- `IdPool.Reached.handsOut`, `Canvas.reports_declareNode` — pools and canvases after any steps
- `handsOut_and_reports` — both, and the reports of a whole diagram
-/

namespace InfraDiagram

open Dot

-- ════════════════════════════════════════════════════════════════════════
-- The loop
-- ════════════════════════════════════════════════════════════════════════

/-- The loop over numbers: it stops at a number whose name is free and goes on to the next one if
    the name is taken. -/
inductive Search (taken : List String) (name : Nat → String) : Nat → Nat → Prop where
  | stop {n : Nat} (h : name n ∉ taken) : Search taken name n n
  | next {n m : Nat} (h : name n ∈ taken) (rest : Search taken name (n + 1) m) :
      Search taken name n m

section

variable {taken : List String} {name : Nat → String}

theorem search_iff {n m : Nat} :
    Search taken name n m ↔ IsLeast {k | n ≤ k ∧ name k ∉ taken} m := by
  constructor
  · intro h
    induction h with
    | stop h => exact ⟨⟨le_rfl, h⟩, fun k hk => hk.1⟩
    | @next n m h _ ih =>
      refine ⟨⟨by have := ih.1.1; omega, ih.1.2⟩, fun k hk => ih.2 ⟨?_, hk.2⟩⟩
      -- the first number is not the one, since its name is taken
      exact Nat.lt_of_le_of_ne hk.1 fun heq => hk.2 (heq ▸ h)
  · rintro ⟨⟨hle, hfree⟩, hleast⟩
    obtain ⟨d, rfl⟩ := Nat.exists_eq_add_of_le hle
    clear hle
    induction d generalizing n with
    | zero => exact .stop hfree
    | succ d ih =>
      have htaken : name n ∈ taken := by
        by_contra hfirst
        have := hleast ⟨le_rfl, hfirst⟩
        omega
      rw [← Nat.add_assoc, Nat.add_right_comm] at hfree ⊢
      refine .next htaken (ih (fun k hk => ?_) hfree)
      have := hleast ⟨Nat.le_of_succ_le hk.1, hk.2⟩
      omega

/-- The loop ends before it has tried more numbers than there are taken names. -/
theorem Search.le_length {n m : Nat} (h : Search taken name n m)
    (hname : Function.Injective name) {base : String} (hbase : base ∈ taken)
    (hother : ∀ k, name k ≠ base) : m ≤ taken.length + n - 1 := by
  obtain ⟨⟨hle, -⟩, hleast⟩ := search_iff.1 h
  have hnodup : (base :: (List.range (m - n)).map fun i => name (n + i)).Nodup := by
    refine List.nodup_cons.2 ⟨fun hmem => ?_, List.nodup_range.map fun i j hij => ?_⟩
    · obtain ⟨i, -, hi⟩ := List.mem_map.1 hmem
      exact hother _ hi
    · exact Nat.add_left_cancel (hname hij)
  have hsub : (base :: (List.range (m - n)).map fun i => name (n + i)) ⊆ taken := by
    refine List.cons_subset.2 ⟨hbase, fun s hs => ?_⟩
    obtain ⟨i, hi, rfl⟩ := List.mem_map.1 hs
    rw [List.mem_range] at hi
    by_contra hfree
    have := hleast ⟨Nat.le_add_right n i, hfree⟩
    omega
  have hlength := (List.subperm_of_subset hnodup hsub).length_le
  simp only [List.length_cons, List.length_map, List.length_range] at hlength
  omega

end

-- ════════════════════════════════════════════════════════════════════════
-- Pools
-- ════════════════════════════════════════════════════════════════════════

namespace IdPool

/-- A pool that came about by handing out these identifiers one after the other. -/
inductive Reached : List String → IdPool → Prop where
  | empty : Reached [] empty
  | allocate {ids : List String} {pool : IdPool} (h : Reached ids pool) (key : String) :
      Reached (ids ++ [(pool.allocate key).1.1]) (pool.allocate key).2

/-- What a pool makes of a key after it has handed out identifiers. -/
structure HandsOut (ids : List String) (pool : IdPool) (key : String) : Prop where
  /-- The identifier of the key is given exactly if no identifier before was the same. -/
  plain : (pool.allocate key).1.1 = Id.ofName key ↔
    Id.canonical (Id.ofName key) ∉ ids.map Id.canonical
  numbered : (pool.allocate key).1.2 = true ↔ (pool.allocate key).1.1 ≠ Id.ofName key
  /-- Otherwise the loop ends, and there is one number where it does. -/
  ends : Id.canonical (Id.ofName key) ∈ ids.map Id.canonical → ∃ n, n ≤ ids.length + 1 ∧
    (∀ m, Search (ids.map Id.canonical) (fun k => Id.canonical (Id.suffixed (Id.ofName key) k))
      2 m ↔ m = n) ∧
    IsLeast {k | 2 ≤ k ∧ Id.canonical (Id.suffixed (Id.ofName key) k) ∉ ids.map Id.canonical} n ∧
    (pool.allocate key).1.1 = Id.suffixed (Id.ofName key) n
  fresh : Id.canonical (pool.allocate key).1.1 ∉ pool.taken
  taken : (pool.allocate key).2.taken = Id.canonical (pool.allocate key).1.1 :: pool.taken

/-- A pool has the canonical forms of what it handed out, and nothing else. -/
theorem Reached.taken_eq {ids : List String} {pool : IdPool} (h : Reached ids pool) :
    pool.taken = (ids.map Id.canonical).reverse := by
  induction h with
  | empty => rfl
  | allocate _ key ih =>
    rw [allocate_taken, ih, List.map_append, List.reverse_append]
    rfl

theorem suffixed_ne_of_taken {pool : IdPool} {base : String} {n : Nat}
    (hbase : Id.canonical base ∈ pool.taken)
    (hfree : Id.canonical (Id.suffixed base n) ∉ pool.taken) : Id.suffixed base n ≠ base :=
  fun heq => hfree (heq.symm ▸ hbase)

theorem canonical_suffixed_ne (base : String) (n : Nat) :
    Id.canonical (Id.suffixed base n) ≠ Id.canonical base := by
  intro heq
  have hlength := congrArg String.length heq
  rw [Id.canonical_suffixed, String.length_append, String.length_append] at hlength
  have hone : "_".length = 1 := rfl
  omega

theorem Reached.handsOut {ids : List String} {pool : IdPool} (h : Reached ids pool)
    (key : String) : pool.HandsOut ids key := by
  have hmem : ∀ s, s ∈ pool.taken ↔ s ∈ ids.map Id.canonical := fun s => by
    rw [h.taken_eq, List.mem_reverse]
  have hfresh : Id.canonical (pool.allocate key).1.1 ∉ pool.taken :=
    pool.canonical_choose_notMem key
  obtain ⟨hfree, heq⟩ | ⟨htaken, n, htwo, hfree, hleast, heq⟩ := pool.choose_cases key
  · rw [hmem] at hfree
    exact {
      plain := by simp [heq, hfree]
      numbered := by simp [heq]
      ends := fun htaken => absurd htaken hfree
      fresh := hfresh
      taken := rfl }
  · have hne := suffixed_ne_of_taken htaken hfree
    have hnumber : IsLeast
        {k | 2 ≤ k ∧ Id.canonical (Id.suffixed (Id.ofName key) k) ∉ ids.map Id.canonical} n := by
      refine ⟨⟨htwo, mt (hmem _).2 hfree⟩, fun k hk => ?_⟩
      by_contra hlt
      exact hk.2 ((hmem _).1 (hleast k hk.1 (Nat.lt_of_not_le hlt)))
    rw [hmem] at htaken
    have hbound := (search_iff.2 hnumber).le_length (Id.canonical_suffixed_injective _) htaken
      (canonical_suffixed_ne _)
    rw [List.length_map] at hbound
    exact {
      plain := by simp [heq, hne, htaken]
      numbered := by simp [heq, hne]
      ends := fun _ => ⟨n, by omega,
        fun m => search_iff.trans ⟨fun hm => hm.unique hnumber, fun hm => hm ▸ hnumber⟩,
        hnumber, congrArg Prod.fst heq⟩
      fresh := hfresh
      taken := rfl }

end IdPool

-- ════════════════════════════════════════════════════════════════════════
-- Reports
-- ════════════════════════════════════════════════════════════════════════

/-- The report that an identifier which was taken already calls for: the key, the identifier of the
    key and the one that was given instead. -/
def Call.collision? (call : Call) : Option Diagnostic :=
  if call.2 = Id.ofName call.1.key then none
  else some (.identifierCollision call.1.key (Id.ofName call.1.key) call.2)

instance : DecidablePred Diagnostic.IsCollision
  | .identifierCollision key base assigned => .isTrue ⟨key, base, assigned, rfl⟩
  | .unknownSchema _ => .isFalse fun ⟨_, _, _, h⟩ => nomatch h
  | .unresolvedEndpoint .. => .isFalse fun ⟨_, _, _, h⟩ => nomatch h
  | .malformedConnection .. => .isFalse fun ⟨_, _, _, h⟩ => nomatch h
  | .danglingEdge .. => .isFalse fun ⟨_, _, _, h⟩ => nomatch h

/-- The reports about identifiers that collide, in their order. -/
def collisionsIn (ds : List Diagnostic) : List Diagnostic :=
  ds.filter fun d => d.IsCollision

theorem collisionsIn_append (ds ds' : List Diagnostic) :
    collisionsIn (ds ++ ds') = collisionsIn ds ++ collisionsIn ds' :=
  List.filter_append ..

theorem collisionsIn_eq_nil {ds : List Diagnostic} :
    collisionsIn ds = [] ↔ ∀ d ∈ ds, ¬d.IsCollision := by
  simp [collisionsIn]

theorem collisionsIn_toList_collision? (call : Call) :
    collisionsIn call.collision?.toList = call.collision?.toList := by
  unfold Call.collision?
  split_ifs
  · rfl
  · exact List.filter_eq_self.2 fun d hd => by
      simp [List.mem_singleton.1 hd, Diagnostic.IsCollision]

namespace Canvas

/-- A declaration takes its identifier from the pool, and the canvas reports the identifier if it
    has a number, and nothing else. -/
structure Reports (c : Canvas) (d : Declaration) : Prop where
  id : (c.declareNode d).1 = (c.nodeIds.allocate d.key).1.1
  pool : (c.declareNode d).2.nodeIds = (c.nodeIds.allocate d.key).2
  diagnostics : (c.declareNode d).2.diagnostics =
    c.diagnostics ++ (Call.collision? (d, (c.declareNode d).1)).toList

theorem collisionOf_eq (c : Canvas) (d : Declaration) :
    c.collisionOf d = (Call.collision? (d, (c.declareNode d).1)).toList := by
  rw [Call.collision?, collisionOf, declareNode_fst]
  obtain ⟨-, heq⟩ | ⟨htaken, n, -, hfree, -, heq⟩ := c.nodeIds.choose_cases d.key
  · rw [heq]
    simp
  · rw [heq]
    simp [IdPool.suffixed_ne_of_taken htaken hfree]

theorem reports_declareNode (c : Canvas) (d : Declaration) : c.Reports d where
  id := rfl
  pool := congrArg Books.nodeIds (c.books_declareNode d)
  diagnostics := by
    rw [← collisionOf_eq]
    exact congrArg Books.diagnostics (c.books_declareNode d)

end Canvas

namespace Event

/-- A step hands out the identifiers that it logs. -/
theorem reached_apply {c : Canvas} {ids : List String} (e : Event)
    (h : IdPool.Reached ids c.nodeIds) :
    IdPool.Reached (ids ++ (e.log c).ids) (e.apply c).nodeIds := by
  have hids : (e.apply c).nodeIds = (e.write c).nodeIds :=
    congrArg Books.nodeIds (e.books_apply c)
  rw [hids]
  cases e with
  | node d => exact h.allocate d.key
  | edge | ordering =>
    rw [write]
    split_ifs <;> exact (List.append_nil ids).symm ▸ h
  | _ => exact (List.append_nil ids).symm ▸ h

/-- A step reports the collisions among what it logs. -/
theorem collisions_apply (c : Canvas) (e : Event) :
    collisionsIn (e.apply c).diagnostics = collisionsIn c.diagnostics ++
      ((e.log c).calls.filterMap Call.collision? ++ collisionsIn (e.log c).warnings) := by
  have hwrite : (e.apply c).diagnostics = (e.write c).diagnostics :=
    congrArg Books.diagnostics (e.books_apply c)
  rw [hwrite]
  cases e with
  | node d =>
    rw [write, collisionsIn_append, c.collisionOf_eq, collisionsIn_toList_collision?,
      List.filterMap_eq_flatMap_toList]
    simp [log, collisionsIn, declare]
  | edge | ordering =>
    rw [write]
    split_ifs
    · exact (List.append_nil _).symm
    · rw [collisionsIn_append]
      rfl
  | warn d => exact collisionsIn_append ..
  | _ => exact (List.append_nil _).symm

end Event

/-- The pool of a canvas handed out the identifiers of the declarations, in their order. -/
theorem reached_run {c : Canvas} {ids : List String} (es : List Event)
    (h : IdPool.Reached ids c.nodeIds) :
    IdPool.Reached (ids ++ (logOf es c).ids) (run es c).nodeIds := by
  induction es generalizing c ids with
  | nil => exact (List.append_nil ids).symm ▸ h
  | cons e es ih =>
    rw [run_cons, logOf, Log.ids_append, ← List.append_assoc]
    exact ih (e.reached_apply h)

theorem reached_run_blank (es : List Event) :
    IdPool.Reached (logOf es .blank).ids (run es .blank).nodeIds := by
  have h := reached_run es IdPool.Reached.empty (c := .blank)
  rwa [List.nil_append] at h

/-- Without warnings about them, the collisions that a run reports are those of its
    declarations. -/
theorem collisions_run {es : List Event} {c : Canvas}
    (h : ∀ d ∈ (logOf es c).warnings, ¬d.IsCollision) :
    collisionsIn (run es c).diagnostics = collisionsIn c.diagnostics ++
      (logOf es c).calls.filterMap Call.collision? := by
  induction es generalizing c with
  | nil => exact (List.append_nil _).symm
  | cons e es ih =>
    rw [logOf, Log.warnings_append, List.forall_mem_append] at h
    rw [run_cons, ih h.2, e.collisions_apply, collisionsIn_eq_nil.2 h.1, List.append_nil, logOf,
      Log.calls_append, List.filterMap_append, List.append_assoc]

/-- **Numbers of identifiers.** Whatever a pool has handed out, it gives a key its own identifier if
    that is new, else the least number of it that is; the canvas reports just the numbered ones. -/
theorem handsOut_and_reports :
    (∀ ids pool, IdPool.Reached ids pool → ∀ key, pool.HandsOut ids key) ∧
    (∀ es d, IdPool.Reached (logOf es .blank).ids (run es .blank).nodeIds ∧
      (run es .blank).Reports d) ∧
    ∀ es, (∀ d ∈ (logOf es .blank).warnings, ¬d.IsCollision) →
      collisionsIn (run es .blank).finish.diagnostics =
        (logOf es .blank).calls.filterMap Call.collision? := by
  refine ⟨fun ids pool h key => h.handsOut key,
    fun es d => ⟨reached_run_blank es, Canvas.reports_declareNode _ d⟩, fun es h => ?_⟩
  rw [Canvas.diagnostics_finish]
  exact collisions_run h

/-- Nodes of which one has the number of another for its own name. -/
def numberedNames : List Event :=
  ["x", "x_2", "x", "\"x\""].map fun key => .node ⟨key, .device, key, [], .empty⟩

theorem handsOut_numberedNames :
    (logOf numberedNames .blank).ids = ["x", "x_2", "x_3", "\"x_4\""] ∧
    (run numberedNames .blank).nodeIds.HandsOut ["x", "x_2", "x_3", "\"x_4\""] "x" ∧
    collisionsIn (run numberedNames .blank).finish.diagnostics =
      [.identifierCollision "x" "x" "x_3", .identifierCollision "\"x\"" "\"x\"" "\"x_4\""] := by
  obtain ⟨hhands, hreports, hcollisions⟩ := handsOut_and_reports
  have hids : (logOf numberedNames .blank).ids = ["x", "x_2", "x_3", "\"x_4\""] := by
    decide +kernel
  have hwarnings : (logOf numberedNames .blank).warnings = [] := by decide +kernel
  obtain ⟨hreached, -⟩ := hreports numberedNames ⟨"x", .device, "x", [], .empty⟩
  refine ⟨hids, hhands _ _ (hids ▸ hreached) "x", ?_⟩
  rw [hcollisions numberedNames fun d hd => by simp [hwarnings] at hd]
  decide +kernel

end InfraDiagram

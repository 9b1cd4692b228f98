import InfraDiagram.Proofs.Outlines
import Mathlib.Data.List.Forall2

/-!
# Bookkeeping

The pools of identifiers, the node map, the table of devices and the tree of the graph all tell
the same story: the declarations so far, each with the identifier it was given.

## Main definitions

- `Holds` — entries of the node map that belong to a declaration
- `Canvas.Accounts` — a canvas that accounts for a list of declarations
- `NodeMap.refsOf` — what the node map says about a node

## Main statements

- `accounts_run` — every run from the blank canvas accounts for its declarations
- `Canvas.entries_run` — no entry of the node map is lost later on
- `Canvas.Accounts.refsOf`, `nodes_run` — a declared node has one entry and one place in the tree
-/

namespace InfraDiagram

open Dot

/-- The items that share a value with one of them are that item alone if no two of them do. -/
theorem filter_eq_singleton {α β : Type} [DecidableEq β] {f : α → β} {xs : List α}
    (h : (xs.map f).Nodup) {x : α} (hx : x ∈ xs) : xs.filter (fun y => f y = f x) = [x] := by
  induction xs with
  | nil => cases hx
  | cons y xs ih =>
    rw [List.map_cons, List.nodup_cons] at h
    rcases List.mem_cons.1 hx with rfl | hx
    · have hrest : xs.filter (fun y => f y = f x) = [] := by
        apply List.filter_eq_nil_iff.2
        intro z hz heq
        exact h.1 (of_decide_eq_true heq ▸ List.mem_map_of_mem hz)
      rw [List.filter_cons_of_pos (by simp), hrest]
    · have hne : f y ≠ f x := fun heq => h.1 (heq ▸ List.mem_map_of_mem hx)
      rw [List.filter_cons_of_neg (by simpa using hne), ih h.2 hx]

-- ════════════════════════════════════════════════════════════════════════
-- Entries of declarations
-- ════════════════════════════════════════════════════════════════════════

/-- An entry of the node map that belongs to a declaration: it has the identifier that was given
    out, and what the declaration says. -/
def Holds (call : Call) (entry : String × NodeRef) : Prop :=
  Canvas.HeldAt call.1.key entry.1 ∧ entry.2 = Canvas.refOf call.1 call.2

/-- Each declaration has one entry, and there are no other entries. -/
def Covers (m : NodeMap) (calls : List Call) : Prop :=
  ∃ held : List (String × NodeRef), held.Perm m.entries ∧ List.Forall₂ Holds calls held

/-- Every entry belongs to a declaration. -/
theorem Covers.exists_call {m : NodeMap} {calls : List Call} (h : Covers m calls)
    {entry : String × NodeRef} (hentry : entry ∈ m.entries) :
    ∃ call ∈ calls, Holds call entry := by
  obtain ⟨held, hperm, hheld⟩ := h
  have hmem : entry ∈ held := hperm.mem_iff.2 hentry
  clear hperm
  induction hheld with
  | nil => simp at hmem
  | cons hfirst _ ih =>
    rcases List.mem_cons.1 hmem with rfl | hmem
    · exact ⟨_, by simp, hfirst⟩
    · obtain ⟨call, hcall, hholds⟩ := ih hmem
      exact ⟨call, by simp [hcall], hholds⟩

/-- An entry that moves from one key to another. -/
def moveEntry (key key' : String) (entry : String × NodeRef) : String × NodeRef :=
  if entry.1 = key then (key', entry.2) else entry

/-- Entries that move to a numbered key still belong to their declarations. -/
theorem Holds.move {call : Call} {entry : String × NodeRef} (h : Holds call entry) (key : String)
    {n : Nat} (hn : 2 ≤ n) : Holds call (moveEntry key (Canvas.numberedKey key n) entry) := by
  unfold moveEntry
  split_ifs with hkey
  · exact ⟨(hkey ▸ h.1).moved hn, h.2⟩
  · exact h

/-- Moving the entry of a key changes this one entry only. -/
theorem map_moveEntry_perm {m : NodeMap} (hm : m.keys.Nodup) {key : String} {ref : NodeRef}
    (h : m.find? key = some ref) (key' : String) :
    (m.entries.map (moveEntry key key')).Perm ((key', ref) :: (m.erase key).entries) := by
  have hstay : (m.erase key).entries.map (moveEntry key key') = (m.erase key).entries := by
    rw [List.map_congr_left (g := id), List.map_id]
    intro entry hentry
    have hmem : entry.1 ∈ (m.erase key).keys := List.mem_map_of_mem hentry
    exact if_neg (NodeMap.mem_keys_erase.1 hmem).2
  have hperm := (NodeMap.erase_perm hm h).map (moveEntry key key')
  rw [List.map_cons, hstay] at hperm
  simpa [moveEntry] using hperm

theorem Covers.enter {m m' : NodeMap} {calls : List Call} {call : Call} (hm : m.keys.Nodup)
    (h : Covers m calls) (he : Canvas.Entered m call.1.key (Canvas.refOf call.1 call.2) m') :
    Covers m' (calls ++ [call]) := by
  obtain ⟨held, hperm, hheld⟩ := h
  -- `held` has the entries in the order of the declarations, so the new one goes to its end
  cases he with
  | free _ hm' =>
    refine ⟨held ++ [(call.1.key, Canvas.refOf call.1 call.2)], ?_,
      List.rel_append hheld (.cons ⟨.own, rfl⟩ .nil)⟩
    exact (List.perm_append_singleton ..).trans ((hperm.cons _).trans hm'.symm)
  | @displacing previous n hfind _ _ hn _ hm' =>
    -- the displaced entry keeps its position there and changes its key only
    have hmoved := (hperm.map (moveEntry call.1.key (Canvas.numberedKey call.1.key n))).trans
      (map_moveEntry_perm hm hfind _)
    refine ⟨held.map (moveEntry call.1.key (Canvas.numberedKey call.1.key n)) ++
      [(call.1.key, Canvas.refOf call.1 call.2)], ?_, List.rel_append ?_ (.cons ⟨.own, rfl⟩ .nil)⟩
    · exact (List.perm_append_singleton ..).trans ((hmoved.cons _).trans hm'.symm)
    · exact List.forall₂_map_right_iff.2 (hheld.imp fun _ _ hold => hold.move _ hn)
  | @numbered _ n _ _ hn _ hm' =>
    refine ⟨held ++ [(Canvas.numberedKey call.1.key n, Canvas.refOf call.1 call.2)], ?_,
      List.rel_append hheld (.cons ⟨.moved .own hn, rfl⟩ .nil)⟩
    exact (List.perm_append_singleton ..).trans ((hperm.cons _).trans hm'.symm)

/-- A new entry leaves every earlier one in the map, at its key or at a number of it. -/
theorem Canvas.Entered.keeps {m m' : NodeMap} {key : String} {ref : NodeRef}
    (hm : m.keys.Nodup) (he : Canvas.Entered m key ref m') {entry : String × NodeRef}
    (hentry : entry ∈ m.entries) :
    ∃ held, HeldAt entry.1 held ∧ (held, entry.2) ∈ m'.entries := by
  cases he with
  | free _ h => exact ⟨entry.1, .own, h.mem_iff.2 (by simp [hentry])⟩
  | @displacing previous n hfind _ _ hn _ h =>
    rcases List.mem_cons.1 ((NodeMap.erase_perm hm hfind).mem_iff.1 hentry) with rfl | hentry
    · exact ⟨_, .moved .own hn, h.mem_iff.2 (by simp)⟩
    · exact ⟨entry.1, .own, h.mem_iff.2 (by simp [hentry])⟩
  | numbered _ _ _ _ h => exact ⟨entry.1, .own, h.mem_iff.2 (by simp [hentry])⟩

theorem entries_enterAll {m : NodeMap} (hm : m.keys.Nodup) (calls : List Call)
    {entry : String × NodeRef} (h : entry ∈ m.entries) :
    ∃ held, Canvas.HeldAt entry.1 held ∧ (held, entry.2) ∈ (enterAll m calls).entries := by
  induction calls generalizing m entry with
  | nil => exact ⟨entry.1, .own, h⟩
  | cons call calls ih =>
    have he := Canvas.enter_cases m call.1.key (Canvas.refOf call.1 call.2)
    obtain ⟨held, hheld, hentry⟩ := he.keeps hm h
    obtain ⟨later, hlater, hlast⟩ := ih (he.nodup_keys hm) hentry
    exact ⟨later, hheld.trans hlater, hlast⟩

/-- The key of every declaration is taken. -/
theorem mem_keys_enterAll {m : NodeMap} {calls : List Call} {key : String}
    (h : key ∈ m.keys ∨ ∃ call ∈ calls, call.1.key = key) : key ∈ (enterAll m calls).keys := by
  induction calls generalizing m with
  | nil => exact h.elim (fun hkey => hkey) fun ⟨_, hnone, _⟩ => absurd hnone List.not_mem_nil
  | cons call calls ih =>
    have hkeys := (Canvas.enter_cases m call.1.key (Canvas.refOf call.1 call.2)).keys_subset
    rw [List.forall_mem_cons] at hkeys
    refine ih ?_
    rcases h with h | ⟨other, hother, rfl⟩
    · exact .inl (hkeys.2 key h)
    · rcases List.mem_cons.1 hother with rfl | hother
      · exact .inl hkeys.1
      · exact .inr ⟨other, hother, rfl⟩

-- ════════════════════════════════════════════════════════════════════════
-- Accounts
-- ════════════════════════════════════════════════════════════════════════

/-- A step that declares no node and opens no cluster registers nothing. -/
theorem Event.registers_apply (c : Canvas) {e : Event} (hcalls : (e.log c).calls = [])
    (hopened : e.opened c = []) :
    (e.apply c).nodeIds = c.nodeIds ∧ (e.apply c).clusterIds = c.clusterIds ∧
      (e.apply c).nodeMap = c.nodeMap ∧ (e.apply c).devices = c.devices ∧
      (e.apply c).declared = c.declared := by
  have hwrite : (e.write c).nodeIds = c.nodeIds ∧ (e.write c).clusterIds = c.clusterIds ∧
      (e.write c).nodeMap = c.nodeMap ∧ (e.write c).devices = c.devices ∧
      (e.write c).declared = c.declared := by
    cases e with
    | node => cases hcalls
    | opening => cases hopened
    | edge | ordering =>
      rw [write]
      split_ifs <;> exact ⟨rfl, rfl, rfl, rfl, rfl⟩
    | closing | sameRank | comment | warn => exact ⟨rfl, rfl, rfl, rfl, rfl⟩
  rwa [← e.books_apply c] at hwrite

namespace Canvas

/-- A canvas that accounts for the declarations so far. -/
structure Accounts (c : Canvas) (calls : List Call) : Prop where
  keys : c.nodeMap.keys.Nodup
  entries : Covers c.nodeMap calls
  nodes : (c.allNodes.map fun n => (n.key, n.id)).Perm
    (calls.map fun call => (call.1.key, call.2))
  declared : c.declared = (calls.map Prod.snd).reverse
  taken : c.nodeIds.taken = (calls.map fun call => Id.canonical call.2).reverse
  distinct : c.nodeIds.taken.Nodup
  devices : ∀ key, c.devices.lookup key =
    (calls.find? fun call => call.1.entity.isDevice && call.1.key == key).map Prod.snd
  clusters : (c.clusterNames.map Id.canonical).Perm c.clusterIds.taken
  distinctClusters : c.clusterIds.taken.Nodup
  prefixed : ∀ name ∈ c.clusterIds.taken, ∃ rest, name = "cluster_" ++ rest

theorem accounts_blank : blank.Accounts [] where
  keys := .nil
  entries := ⟨[], .refl _, .nil⟩
  nodes := .refl _
  declared := rfl
  taken := rfl
  distinct := .nil
  devices _ := rfl
  clusters := .refl _
  distinctClusters := .nil
  prefixed _ h := by simp [blank, IdPool.empty] at h

namespace Accounts

variable {c : Canvas} {calls : List Call}

/-- A step that declares no node and opens no cluster leaves the account as it is. -/
theorem silent (h : c.Accounts calls) {e : Event} (hcalls : (e.log c).calls = [])
    (hopened : e.opened c = []) : (e.apply c).Accounts calls := by
  obtain ⟨hids, hclusterIds, hmap, hdevices, hdeclared⟩ := e.registers_apply c hcalls hopened
  have hnodes := e.allNodes_apply c
  have hclusters := e.clusterNames_apply c
  rw [hcalls] at hnodes
  rw [hopened] at hclusters
  exact {
    keys := hmap ▸ h.keys
    entries := hmap ▸ h.entries
    nodes := (hnodes.map _).trans h.nodes
    declared := hdeclared ▸ h.declared
    taken := hids ▸ h.taken
    distinct := hids ▸ h.distinct
    devices := fun key => hdevices ▸ h.devices key
    clusters := hclusterIds ▸ (hclusters.map _).trans h.clusters
    distinctClusters := hclusterIds ▸ h.distinctClusters
    prefixed := hclusterIds ▸ h.prefixed }

/-- The table of devices keeps the first declaration of a key. -/
theorem lookup_devices_declare (h : c.Accounts calls) (call : Call) (key : String) :
    (if call.1.entity.isDevice && (c.devices.lookup call.1.key).isNone then
        c.devices ++ [(call.1.key, call.2)] else c.devices).lookup key =
      ((calls ++ [call]).find? fun call => call.1.entity.isDevice && call.1.key == key).map
        Prod.snd := by
  rw [List.find?_append, Option.map_or, ← h.devices key]
  split_ifs with hnew
  · simp only [Bool.and_eq_true, Option.isNone_iff_eq_none] at hnew
    rw [List.lookup_append]
    by_cases hkey : key = call.1.key
    · subst hkey
      simp [hnew.1, hnew.2]
    · simp [List.lookup_cons, beq_eq_false_iff_ne.2 hkey, Ne.symm hkey]
  · cases hlookup : c.devices.lookup key with
    | some id => rfl
    | none =>
      -- a device whose key is free would have been entered
      have hnot : (call.1.entity.isDevice && call.1.key == key) = false := by
        by_contra hdevice
        simp only [Bool.not_eq_false, Bool.and_eq_true, beq_iff_eq] at hdevice
        exact hnew (by simp [hdevice.1, hdevice.2, hlookup])
      simp [hnot]

theorem declare (h : c.Accounts calls) (d : Declaration) :
    (c.declareNode d).2.Accounts (calls ++ [(d, (c.declareNode d).1)]) := by
  have hbooks := c.books_declareNode d
  have hmap := congrArg Books.nodeMap hbooks
  have hids := congrArg Books.nodeIds hbooks
  have hdevices := congrArg Books.devices hbooks
  have hdeclared := congrArg Books.declared hbooks
  have hclusterIds := congrArg Books.clusterIds hbooks
  simp only [books, Event.write] at hmap hids hdevices hdeclared hclusterIds
  have hentered := enter_cases c.nodeMap d.key (refOf d (c.declareNode d).1)
  have htaken : (c.declareNode d).2.nodeIds.taken =
      Id.canonical (c.nodeIds.choose d.key).1 :: c.nodeIds.taken := by
    rw [hids, IdPool.allocate_taken]
  exact {
    keys := hmap ▸ hentered.nodup_keys h.keys
    entries := hmap ▸ h.entries.enter h.keys hentered
    nodes := by
      have hnodes : (c.declareNode d).2.allNodes.Perm
          (Call.node (d, (c.declareNode d).1) :: c.allNodes) := Event.allNodes_apply c (.node d)
      refine (hnodes.map _).trans ?_
      rw [List.map_append, List.map_cons]
      exact (h.nodes.cons _).trans (List.perm_append_singleton ..).symm
    declared := by
      rw [hdeclared, h.declared, List.map_append, List.reverse_append]
      rfl
    taken := by
      rw [htaken, List.map_append, List.reverse_append, h.taken]
      rfl
    distinct := htaken ▸
      List.nodup_cons.2 ⟨c.nodeIds.canonical_choose_notMem d.key, h.distinct⟩
    devices := fun key => hdevices ▸ h.lookup_devices_declare (d, (c.declareNode d).1) key
    clusters := hclusterIds ▸ ((Event.clusterNames_apply c (.node d)).map _).trans h.clusters
    distinctClusters := hclusterIds ▸ h.distinctClusters
    prefixed := hclusterIds ▸ h.prefixed }

theorem openCluster (h : c.Accounts calls) (key : String) (attrs : Attrs) :
    (c.openCluster key attrs).Accounts calls where
  keys := h.keys
  entries := h.entries
  nodes := ((Event.allNodes_apply c (.opening key attrs)).map _).trans h.nodes
  declared := h.declared
  taken := h.taken
  distinct := h.distinct
  devices := h.devices
  clusters := ((Event.clusterNames_apply c (.opening key attrs)).map Id.canonical).trans
    (h.clusters.cons _)
  distinctClusters := List.nodup_cons.2
    ⟨c.clusterIds.canonical_choose_notMem ("cluster_" ++ key), h.distinctClusters⟩
  prefixed := by
    intro name hname
    rcases List.mem_cons.1 hname with rfl | hname
    · exact c.clusterIds.canonical_choose_cluster key
    · exact h.prefixed name hname

/-- A step adds its declaration to the account. -/
theorem apply (h : c.Accounts calls) (e : Event) :
    (e.apply c).Accounts (calls ++ (e.log c).calls) := by
  cases e with
  | node d => exact h.declare d
  | opening key attrs => exact (List.append_nil calls).symm ▸ h.openCluster key attrs
  | closing | edge | ordering | sameRank | comment | warn =>
    exact (List.append_nil calls).symm ▸ h.silent rfl rfl

theorem run (h : c.Accounts calls) (es : List Event) :
    (run es c).Accounts (calls ++ (logOf es c).calls) := by
  induction es generalizing c calls with
  | nil => exact (List.append_nil calls).symm ▸ h
  | cons e es ih =>
    have hrest := ih (h.apply e)
    rwa [List.append_assoc] at hrest

/-- No two declarations get the same identifier. -/
theorem nodup_ids (h : c.Accounts calls) : (calls.map Prod.snd).Nodup := by
  have hdistinct := h.distinct
  rw [h.taken, List.nodup_reverse] at hdistinct
  exact .of_map Id.canonical (by rwa [List.map_map])

theorem call_unique (h : c.Accounts calls) {call call' : Call} (hcall : call ∈ calls)
    (hcall' : call' ∈ calls) (heq : call.2 = call'.2) : call = call' :=
  List.inj_on_of_nodup_map h.nodup_ids hcall hcall' heq

/-- What the node map has at a key was declared under a key that came to be this one. -/
theorem exists_call_of_lookup (h : c.Accounts calls) {key id : String}
    (hid : c.lookup key = some id) : ∃ call ∈ calls, call.2 = id ∧ HeldAt call.1.key key := by
  obtain ⟨ref, href, rfl⟩ := Option.map_eq_some_iff.1 hid
  obtain ⟨call, hcall, hheld, heq⟩ := h.entries.exists_call (NodeMap.mem_of_find?_eq_some href)
  exact ⟨call, hcall, (congrArg NodeRef.graphNodeId heq).symm, hheld⟩

/-- What the table of devices has at a key is a device that was declared under it. -/
theorem exists_call_of_lookupDevice (h : c.Accounts calls) {key id : String}
    (hid : c.lookupDevice key = some id) :
    ∃ call ∈ calls, call.2 = id ∧ call.1.entity.isDevice = true ∧ call.1.key = key := by
  rw [lookupDevice, h.devices] at hid
  obtain ⟨call, hfind, rfl⟩ := Option.map_eq_some_iff.1 hid
  have hboth := List.find?_some hfind
  simp only [Bool.and_eq_true, beq_iff_eq] at hboth
  exact ⟨call, List.mem_of_find?_eq_some hfind, rfl, hboth⟩

end Accounts

/-- Every run from the blank canvas accounts for its declarations. -/
theorem accounts_run (es : List Event) :
    (InfraDiagram.run es blank).Accounts (logOf es blank).calls :=
  accounts_blank.run es

/-- No entry is lost: each one stays in the map, at its key or at a number of it. -/
theorem entries_run {c : Canvas} {calls : List Call} (hc : c.Accounts calls) (es : List Event)
    {entry : String × NodeRef} (h : entry ∈ c.nodeMap.entries) :
    ∃ held, HeldAt entry.1 held ∧ (held, entry.2) ∈ (InfraDiagram.run es c).nodeMap.entries := by
  rw [nodeMap_run]
  exact entries_enterAll hc.keys _ h

end Canvas

-- ════════════════════════════════════════════════════════════════════════
-- Declared nodes
-- ════════════════════════════════════════════════════════════════════════

/-- What the node map says about a node, under whatever keys. -/
def NodeMap.refsOf (m : NodeMap) (id : String) : List NodeRef :=
  (m.entries.map Prod.snd).filter fun ref => ref.graphNodeId = id

/-- Every declared node has one entry, which says what was declared. -/
theorem Canvas.Accounts.refsOf {c : Canvas} {calls : List Call} (h : c.Accounts calls)
    {call : Call} (hcall : call ∈ calls) :
    c.nodeMap.refsOf call.2 = [Canvas.refOf call.1 call.2] := by
  obtain ⟨held, hperm, hheld⟩ := h.entries
  have hrefs : held.map Prod.snd = calls.map fun call => Canvas.refOf call.1 call.2 := by
    clear hperm hcall h
    induction hheld with
    | nil => rfl
    | cons hfirst _ ih => rw [List.map_cons, List.map_cons, ih, hfirst.2]
  have hown : (held.map Prod.snd).filter (fun ref => ref.graphNodeId = call.2) =
      [Canvas.refOf call.1 call.2] := by
    rw [hrefs, List.filter_map]
    exact congrArg (List.map _) (filter_eq_singleton h.nodup_ids hcall)
  have hall := (hperm.map Prod.snd).filter fun ref => decide (ref.graphNodeId = call.2)
  rw [hown] at hall
  exact (List.singleton_perm.1 hall).symm

/-- The nodes of a canvas after any steps are those of the declarations among them. -/
theorem allNodes_run (es : List Event) (c : Canvas) :
    (run es c).allNodes.Perm ((logOf es c).calls.map Call.node ++ c.allNodes) := by
  induction es generalizing c with
  | nil => exact .refl _
  | cons e es ih =>
    rw [run_cons, logOf, Log.calls_append, List.map_append]
    refine (ih (e.apply c)).trans ?_
    refine ((e.allNodes_apply c).append_left _).trans ?_
    rw [← List.append_assoc]
    exact List.perm_append_comm.append_right _

/-- A declared node is the only one with its identifier. -/
theorem nodes_run (es : List Event) {call : Call} (h : call ∈ (logOf es .blank).calls) :
    (run es .blank).allNodes.filter (fun n => n.id = call.2) = [Call.node call] := by
  have hall := (allNodes_run es .blank).filter fun n => decide (n.id = call.2)
  have hblank : Canvas.blank.allNodes = [] := rfl
  rw [hblank, List.append_nil, List.filter_map] at hall
  have hown : ((logOf es .blank).calls.filter fun other => other.2 = call.2) = [call] :=
    filter_eq_singleton (Canvas.accounts_run es).nodup_ids h
  exact List.perm_singleton.1 (hall.trans (.of_eq (congrArg (List.map Call.node) hown)))

end InfraDiagram

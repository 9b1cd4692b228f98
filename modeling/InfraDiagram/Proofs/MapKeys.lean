import InfraDiagram.Diagram.Canvas
import InfraDiagram.Proofs.Allocation
import Mathlib.Data.List.Perm.Basic

/-!
# Keys of the node map

A new entry never takes the place of another one. It goes to its own key or to a numbered one, and
at most one earlier entry makes room for it.

## Main definitions

- `NodeMap.keys` — the keys that are taken
- `HeldAt` — the keys at which the entry of a declaration may be found

## Main statements

- `NodeMap.find?_eq_some_iff` — look-up in a map with distinct keys
- `Canvas.enter_cases` — the three ways in which an entry comes in
- `Canvas.Entered.nodup_keys`, `Canvas.Entered.keys_subset` — keys stay distinct, and taken
-/

namespace InfraDiagram

namespace NodeMap

def keys (m : NodeMap) : List String :=
  m.entries.map Prod.fst

theorem contains_eq_true_iff {m : NodeMap} {key : String} :
    m.contains key = true ↔ key ∈ m.keys := by
  simp only [contains, find?, keys, Option.isSome_iff_ne_none, ne_eq, List.lookup_eq_none_iff,
    List.mem_map]
  constructor
  · intro h
    push Not at h
    obtain ⟨entry, hentry, hkey⟩ := h
    exact ⟨entry, hentry, by simpa using (beq_iff_eq.1 (by simpa using hkey) : key = _).symm⟩
  · rintro ⟨entry, hentry, rfl⟩ h
    simpa using h entry hentry

theorem find?_eq_none_iff {m : NodeMap} {key : String} : m.find? key = none ↔ key ∉ m.keys := by
  rw [← contains_eq_true_iff, contains]
  cases m.find? key <;> simp

theorem mem_of_find?_eq_some {m : NodeMap} {key : String} {ref : NodeRef}
    (h : m.find? key = some ref) : (key, ref) ∈ m.entries := by
  obtain ⟨l₁, l₂, heq, -⟩ := List.lookup_eq_some_iff.1 h
  simp [heq]

/-- In a map with distinct keys, look-up finds every entry. -/
theorem find?_eq_some_iff {m : NodeMap} (hm : m.keys.Nodup) {key : String} {ref : NodeRef} :
    m.find? key = some ref ↔ (key, ref) ∈ m.entries := by
  refine ⟨mem_of_find?_eq_some, fun h => ?_⟩
  obtain ⟨l₁, l₂, heq⟩ := List.append_of_mem h
  refine List.lookup_eq_some_iff.2 ⟨l₁, l₂, heq, fun entry hentry => ?_⟩
  rw [keys, heq, List.map_append, List.nodup_append] at hm
  simpa using (hm.2.2 entry.1 (List.mem_map_of_mem hentry) key (by simp)).symm

/-- A new key adds one entry. -/
theorem insertIn_perm {key : String} {ref : NodeRef} {entries : List (String × NodeRef)}
    (h : key ∉ entries.map Prod.fst) :
    (insertIn key ref entries).Perm ((key, ref) :: entries) := by
  induction entries with
  | nil => exact .refl _
  | cons entry rest ih =>
    obtain ⟨k, r⟩ := entry
    simp only [List.map_cons, List.mem_cons, not_or] at h
    simp only [insertIn, if_neg (Ne.symm h.1)]
    split_ifs with hlt
    · exact .refl _
    · exact ((ih h.2).cons (k, r)).trans (.swap ..)

theorem insert_perm {m : NodeMap} {key : String} (ref : NodeRef) (h : key ∉ m.keys) :
    (m.insert key ref).entries.Perm ((key, ref) :: m.entries) :=
  insertIn_perm h

theorem mem_keys_erase {m : NodeMap} {key other : String} :
    other ∈ (m.erase key).keys ↔ other ∈ m.keys ∧ other ≠ key := by
  simp only [keys, erase, List.mem_map, List.mem_filter, bne_iff_ne]
  constructor
  · rintro ⟨entry, ⟨hentry, hne⟩, rfl⟩
    exact ⟨⟨entry, hentry, rfl⟩, hne⟩
  · rintro ⟨⟨entry, hentry, rfl⟩, hne⟩
    exact ⟨entry, ⟨hentry, hne⟩, rfl⟩

/-- Erasing a key takes out its one entry. -/
theorem erase_perm {m : NodeMap} (hm : m.keys.Nodup) {key : String} {ref : NodeRef}
    (h : m.find? key = some ref) : m.entries.Perm ((key, ref) :: (m.erase key).entries) := by
  obtain ⟨l₁, l₂, heq⟩ := List.append_of_mem (mem_of_find?_eq_some h)
  rw [keys, heq, List.map_append, List.map_cons, List.nodup_append, List.nodup_cons] at hm
  have h₁ : l₁.filter (fun entry => entry.1 != key) = l₁ :=
    List.filter_eq_self.2 fun entry hentry => by
      simpa using hm.2.2 entry.1 (List.mem_map_of_mem hentry) key (by simp)
  have h₂ : l₂.filter (fun entry => entry.1 != key) = l₂ :=
    List.filter_eq_self.2 fun entry hentry => by
      have hmem : entry.1 ∈ l₂.map Prod.fst := List.mem_map_of_mem hentry
      have hne : entry.1 ≠ key := fun hkey => hm.2.1.1 (hkey ▸ hmem)
      simpa using hne
  have herase : (m.erase key).entries = l₁ ++ l₂ := by
    simp [erase, heq, List.filter_append, h₁, h₂]
  rw [heq, herase]
  exact List.perm_middle

end NodeMap

namespace Canvas

theorem numberedKey_injective (key : String) : Function.Injective (numberedKey key) := by
  intro m n h
  exact Dot.Id.toString_injective (String.append_right_inj _ |>.1 h)

/-- The keys at which the entry for a declared key may be found: the key itself, or a numbered
    key of one where the entry was before. -/
inductive HeldAt (key : String) : String → Prop where
  | own : HeldAt key key
  | moved {held : String} {n : Nat} (h : HeldAt key held) (hn : 2 ≤ n) :
      HeldAt key (numberedKey held n)

theorem HeldAt.trans {key held later : String} (h : HeldAt key held) (h' : HeldAt held later) :
    HeldAt key later := by
  induction h' with
  | own => exact h
  | moved _ hn ih => exact ih.moved hn

/-- A key only gets longer when its entry moves. -/
theorem HeldAt.eq_or_length_lt {key held : String} (h : HeldAt key held) :
    held = key ∨ key.length < held.length := by
  induction h with
  | own => exact .inl rfl
  | @moved held n _ _ ih =>
    have hlength : (numberedKey held n).length = held.length + 1 + (toString n).length := by
      rw [numberedKey, String.length_append, String.length_append]
      rfl
    right
    rcases ih with rfl | hlt <;> omega

/-- The free key for a key is the key itself, or a numbered one if it is taken. -/
theorem freeKey_cases (m : NodeMap) (key : String) :
    (key ∉ m.keys ∧ freeKey m key = key) ∨
      (key ∈ m.keys ∧ ∃ n, 2 ≤ n ∧ numberedKey key n ∉ m.keys ∧
        freeKey m key = numberedKey key n) := by
  by_cases h : m.contains key = true
  · obtain ⟨htwo, hfree, -⟩ := leastFree_spec m.keys (numberedKey_injective key)
    exact .inr ⟨NodeMap.contains_eq_true_iff.1 h, _, htwo, hfree, by rw [freeKey, if_pos h]; rfl⟩
  · exact .inl ⟨fun hk => h (NodeMap.contains_eq_true_iff.2 hk), by rw [freeKey, if_neg h]⟩

/-- What may come of a map that gets an entry for a declared key: the entry stands at its key, or
    it displaces an entry that is not a device to a numbered key, or it takes a numbered key. -/
inductive Entered (m : NodeMap) (key : String) (ref : NodeRef) (m' : NodeMap) : Prop where
  | free (hkey : key ∉ m.keys) (h : m'.entries.Perm ((key, ref) :: m.entries))
  | displacing {previous : NodeRef} {n : Nat} (hfind : m.find? key = some previous)
      (hdevice : ref.entityType.isDevice = true) (hprevious : previous.entityType.isDevice = false)
      (hn : 2 ≤ n) (hfree : numberedKey key n ∉ m.keys)
      (h : m'.entries.Perm
        ((key, ref) :: (numberedKey key n, previous) :: (m.erase key).entries))
  | numbered {previous : NodeRef} {n : Nat} (hfind : m.find? key = some previous)
      (hyields : ref.entityType.isDevice = true → previous.entityType.isDevice = true)
      (hn : 2 ≤ n) (hfree : numberedKey key n ∉ m.keys)
      (h : m'.entries.Perm ((numberedKey key n, ref) :: m.entries))

/-- An entry that gets the free key of its own key displaces nothing. -/
theorem entered_insert_freeKey {m : NodeMap} {key : String} {ref : NodeRef}
    (hyields : ∀ previous, m.find? key = some previous →
      ref.entityType.isDevice = true → previous.entityType.isDevice = true) :
    Entered m key ref (m.insert (freeKey m key) ref) := by
  obtain ⟨hkey, heq⟩ | ⟨hkey, n, hn, hfree, heq⟩ := freeKey_cases m key
  · rw [heq]
    exact .free hkey (m.insert_perm ref hkey)
  · obtain ⟨previous, hprevious⟩ := Option.ne_none_iff_exists'.1
      fun h => NodeMap.find?_eq_none_iff.1 h hkey
    rw [heq]
    exact .numbered hprevious (hyields previous hprevious) hn hfree (m.insert_perm ref hfree)

/-- A device that finds its key held by an entry of another sort takes the key over. -/
theorem entered_displacing {m : NodeMap} {key : String} {ref previous : NodeRef}
    (hfind : m.find? key = some previous) (hdevice : ref.entityType.isDevice = true)
    (hprevious : previous.entityType.isDevice = false) :
    Entered m key ref
      (((m.erase key).insert (freeKey m key) previous).insert
        (freeKey ((m.erase key).insert (freeKey m key) previous) key) ref) := by
  have hkey : key ∈ m.keys :=
    List.mem_map.2 ⟨_, NodeMap.mem_of_find?_eq_some hfind, rfl⟩
  obtain ⟨hnot, -⟩ | ⟨-, n, hn, hfree, heq⟩ := freeKey_cases m key
  · exact absurd hkey hnot
  rw [heq]
  have hmoved : ((m.erase key).insert (numberedKey key n) previous).entries.Perm
      ((numberedKey key n, previous) :: (m.erase key).entries) :=
    NodeMap.insert_perm previous fun h => hfree (NodeMap.mem_keys_erase.1 h).1
  -- once the earlier entry has moved, the key is free for the device
  have hroom : key ∉ ((m.erase key).insert (numberedKey key n) previous).keys := by
    intro h
    have h : key ∈ numberedKey key n :: (m.erase key).keys :=
      (hmoved.map Prod.fst).mem_iff.1 h
    rcases List.mem_cons.1 h with h | h
    · exact hfree (h ▸ hkey)
    · exact (NodeMap.mem_keys_erase.1 h).2 rfl
  obtain ⟨-, hown⟩ | ⟨htaken, -⟩ :=
    freeKey_cases ((m.erase key).insert (numberedKey key n) previous) key
  · rw [hown]
    exact .displacing hfind hdevice hprevious hn hfree
      ((NodeMap.insert_perm ref hroom).trans (hmoved.cons _))
  · exact absurd htaken hroom

theorem enter_cases (m : NodeMap) (key : String) (ref : NodeRef) :
    Entered m key ref (enter m key ref) := by
  by_cases hdevice : ref.entityType.isDevice = true
  · rw [enter, if_pos hdevice]
    cases hfind : m.find? key with
    | none =>
      simp only [displace, hfind]
      exact entered_insert_freeKey fun previous h => by simp [hfind] at h
    | some previous =>
      by_cases hprevious : previous.entityType.isDevice = true
      · simp only [displace, hfind, if_pos hprevious]
        refine entered_insert_freeKey fun other h _ => ?_
        rw [hfind] at h
        exact Option.some.inj h ▸ hprevious
      · simp only [displace, hfind, if_neg hprevious]
        exact entered_displacing hfind hdevice (by simpa using hprevious)
  · rw [enter, if_neg hdevice]
    exact entered_insert_freeKey fun _ _ h => absurd h hdevice

theorem Entered.nodup_keys {m m' : NodeMap} {key : String} {ref : NodeRef}
    (h : Entered m key ref m') (hm : m.keys.Nodup) : m'.keys.Nodup := by
  cases h with
  | free hkey h =>
    refine (h.map Prod.fst).nodup_iff.2 ?_
    exact List.nodup_cons.2 ⟨hkey, hm⟩
  | @displacing previous n hfind _ _ _ hfree h =>
    refine (h.map Prod.fst).nodup_iff.2 ?_
    -- the numbered key was free in the whole map, so it is in the map without the key
    have hold := ((NodeMap.erase_perm hm hfind).map Prod.fst).nodup_iff.1 hm
    simp only [List.map_cons, List.nodup_cons] at hold ⊢
    have hkey : key ∈ m.keys :=
      List.mem_map.2 ⟨_, NodeMap.mem_of_find?_eq_some hfind, rfl⟩
    refine ⟨fun h => ?_, fun h => hfree (NodeMap.mem_keys_erase.1 h).1, hold.2⟩
    rcases List.mem_cons.1 h with h | h
    · exact hfree (h ▸ hkey)
    · exact hold.1 h
  | numbered _ _ _ hfree h =>
    refine (h.map Prod.fst).nodup_iff.2 ?_
    exact List.nodup_cons.2 ⟨hfree, hm⟩

/-- The declared key is taken from then on, and so is every other key that was. -/
theorem Entered.keys_subset {m m' : NodeMap} {key : String} {ref : NodeRef}
    (h : Entered m key ref m') : ∀ k ∈ key :: m.keys, k ∈ m'.keys := by
  rw [List.forall_mem_cons]
  cases h with
  | free _ h =>
    have hkeys : m'.keys.Perm (key :: m.keys) := h.map Prod.fst
    exact ⟨hkeys.mem_iff.2 (by simp), fun k hk => hkeys.mem_iff.2 (by simp [hk])⟩
  | @displacing previous n _ _ _ _ _ h =>
    have hkeys : m'.keys.Perm (key :: numberedKey key n :: (m.erase key).keys) := h.map Prod.fst
    refine ⟨hkeys.mem_iff.2 (by simp), fun k hk => hkeys.mem_iff.2 ?_⟩
    by_cases heq : k = key
    · simp [heq]
    · simp [NodeMap.mem_keys_erase.2 ⟨hk, heq⟩]
  | @numbered previous n hfind _ _ _ h =>
    have hkeys : m'.keys.Perm (numberedKey key n :: m.keys) := h.map Prod.fst
    have hkey : key ∈ m.keys :=
      List.mem_map.2 ⟨_, NodeMap.mem_of_find?_eq_some hfind, rfl⟩
    exact ⟨hkeys.mem_iff.2 (by simp [hkey]), fun k hk => hkeys.mem_iff.2 (by simp [hk])⟩

end Canvas

end InfraDiagram

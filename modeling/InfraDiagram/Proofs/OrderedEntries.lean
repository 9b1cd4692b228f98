import Mathlib.Data.List.Basic
import Mathlib.Data.List.Nodup

/-!
# Entries in the order of their first writes

Mappings and attribute lists are lists of entries in which a key is set in its place if it is
there, and at the end if it is not. After any number of writes the keys stand in the order in which
they were first written, each with the value that was written last.

## Main definitions

- `Entries.put`, `Entries.putAll` — one write, and one after the other

## Main statements

- `Entries.keys_putAll`, `Entries.lookup_putAll` — the keys and the values after many writes
- `Entries.ext` — entries are their keys in order with what is found under them
- `Entries.putAll_putAll` — writing what was written once counts as writing it all
-/

namespace InfraDiagram

/-- Keys with values. -/
abbrev Entries (α : Type) := List (String × α)

namespace Entries

variable {α : Type}

def keys (entries : Entries α) : List String :=
  entries.map Prod.fst

theorem nodup_keys_nil : (keys ([] : Entries α)).Nodup :=
  List.nodup_nil

/-- Sets a key: in its place if it is there, at the end if not. -/
def put (key : String) (value : α) : Entries α → Entries α
  | [] => [(key, value)]
  | (k, v) :: rest => if k = key then (k, value) :: rest else (k, v) :: put key value rest

/-- Sets the keys of some pairs, one after the other. -/
def putAll (entries pairs : Entries α) : Entries α :=
  pairs.foldl (fun acc pair => put pair.1 pair.2 acc) entries

-- ════════════════════════════════════════════════════════════════════════
-- Looking up
-- ════════════════════════════════════════════════════════════════════════

theorem lookup_cons (k : String) (v : α) (entries : Entries α) (key : String) :
    List.lookup key ((k, v) :: entries) = if key = k then some v else entries.lookup key := by
  by_cases h : key = k
  · rw [if_pos h, List.lookup_cons, beq_iff_eq.2 h]
  · rw [if_neg h, List.lookup_cons, beq_eq_false_iff_ne.2 h]

theorem lookup_eq_none {entries : Entries α} {key : String} (h : key ∉ keys entries) :
    entries.lookup key = none := by
  induction entries with
  | nil => rfl
  | cons entry rest ih =>
    obtain ⟨k, v⟩ := entry
    simp only [keys, List.map_cons, List.mem_cons, not_or] at h
    rw [lookup_cons, if_neg h.1, ih h.2]

/-- Entries without repeated keys are their keys in order with what is found under them. -/
theorem ext {entries others : Entries α} (hnodup : (keys entries).Nodup)
    (hkeys : keys entries = keys others) (hlookup : ∀ key, entries.lookup key = others.lookup key) :
    entries = others := by
  induction entries generalizing others with
  | nil => exact (List.map_eq_nil_iff.1 hkeys.symm).symm
  | cons entry rest ih =>
    obtain ⟨k, v⟩ := entry
    cases others with
    | nil => cases hkeys
    | cons other others =>
      obtain ⟨l, w⟩ := other
      obtain ⟨rfl, htail⟩ : k = l ∧ keys rest = keys others := List.cons.inj hkeys
      obtain ⟨hk, hrest⟩ : k ∉ keys rest ∧ (keys rest).Nodup := List.nodup_cons.1 hnodup
      have hvalue : v = w := by
        have hfirst := hlookup k
        rw [lookup_cons, lookup_cons, if_pos rfl, if_pos rfl] at hfirst
        exact Option.some.inj hfirst
      have hothers : ∀ key, rest.lookup key = others.lookup key := by
        intro key
        by_cases hkey : key = k
        · rw [hkey, lookup_eq_none hk, lookup_eq_none (htail ▸ hk)]
        · have hlater := hlookup key
          rwa [lookup_cons, lookup_cons, if_neg hkey, if_neg hkey] at hlater
      rw [hvalue, ih hrest htail hothers]

/-- Without repeated keys, the first entry of a key is its last one. -/
theorem lookup_reverse {entries : Entries α} (h : (keys entries).Nodup) (key : String) :
    entries.reverse.lookup key = entries.lookup key := by
  induction entries with
  | nil => rfl
  | cons entry rest ih =>
    obtain ⟨k, v⟩ := entry
    obtain ⟨hk, hrest⟩ : k ∉ keys rest ∧ (keys rest).Nodup := List.nodup_cons.1 h
    rw [List.reverse_cons, List.lookup_append, ih hrest, lookup_cons, lookup_cons]
    by_cases hkey : key = k
    · rw [if_pos hkey, if_pos hkey, hkey, lookup_eq_none hk]
      rfl
    · rw [if_neg hkey, if_neg hkey]
      exact Option.or_none

-- ════════════════════════════════════════════════════════════════════════
-- One write
-- ════════════════════════════════════════════════════════════════════════

theorem keys_put (entries : Entries α) (key : String) (value : α) :
    keys (put key value entries) =
      if key ∈ keys entries then keys entries else keys entries ++ [key] := by
  induction entries with
  | nil => rfl
  | cons entry rest ih =>
    obtain ⟨k, v⟩ := entry
    by_cases hk : k = key
    · simp [put, keys, hk]
    · have hcons : keys (put key value ((k, v) :: rest)) = k :: keys (put key value rest) := by
        rw [put, if_neg hk]
        rfl
      have hmem : key ∈ keys ((k, v) :: rest) ↔ key ∈ keys rest := by
        simp [keys, Ne.symm hk]
      rw [hcons, ih]
      by_cases hold : key ∈ keys rest
      · rw [if_pos hold, if_pos (hmem.2 hold)]
        rfl
      · rw [if_neg hold, if_neg (mt hmem.1 hold)]
        rfl

theorem nodup_keys_put {entries : Entries α} (h : (keys entries).Nodup) (key : String)
    (value : α) : (keys (put key value entries)).Nodup := by
  rw [keys_put]
  split_ifs with hkey
  · exact h
  · exact List.concat_eq_append ▸ h.concat hkey

theorem mem_keys_put (entries : Entries α) (key : String) (value : α) (k : String) :
    k ∈ keys (put key value entries) ↔ k = key ∨ k ∈ keys entries := by
  rw [keys_put]
  split_ifs with hkey
  · exact ⟨.inr, fun h => h.elim (fun heq => heq ▸ hkey) id⟩
  · rw [List.mem_append, List.mem_singleton, or_comm]

theorem mem_put {entries : Entries α} {key : String} {value : α} {entry : String × α}
    (h : entry ∈ put key value entries) : entry = (key, value) ∨ entry ∈ entries := by
  induction entries with
  | nil => exact .inl (List.mem_singleton.1 h)
  | cons first rest ih =>
    obtain ⟨k, v⟩ := first
    rw [put] at h
    split_ifs at h with hk
    · rcases List.mem_cons.1 h with rfl | h
      · exact .inl (by rw [hk])
      · exact .inr (List.mem_cons_of_mem _ h)
    · rcases List.mem_cons.1 h with rfl | h
      · exact .inr List.mem_cons_self
      · exact (ih h).imp_right (List.mem_cons_of_mem _)

theorem lookup_put (entries : Entries α) (key : String) (value : α) (k : String) :
    (put key value entries).lookup k = if k = key then some value else entries.lookup k := by
  induction entries with
  | nil => exact lookup_cons key value [] k
  | cons entry rest ih =>
    obtain ⟨l, v⟩ := entry
    rw [put]
    by_cases hl : l = key
    · rw [if_pos hl, lookup_cons, lookup_cons, hl]
      split_ifs <;> rfl
    · rw [if_neg hl, lookup_cons, lookup_cons, ih]
      by_cases hk : k = l
      · rw [if_pos hk, if_pos hk, if_neg (hk.trans_ne hl)]
      · rw [if_neg hk, if_neg hk]

/-- A new key goes to the end. -/
theorem put_of_notMem {entries : Entries α} {key : String} (value : α)
    (h : key ∉ keys entries) : put key value entries = entries ++ [(key, value)] := by
  induction entries with
  | nil => rfl
  | cons entry rest ih =>
    obtain ⟨k, v⟩ := entry
    simp only [keys, List.map_cons, List.mem_cons, not_or] at h
    rw [put, if_neg (Ne.symm h.1), ih h.2, List.cons_append]

-- ════════════════════════════════════════════════════════════════════════
-- Writes one after the other
-- ════════════════════════════════════════════════════════════════════════

theorem putAll_cons (entries rest : Entries α) (pair : String × α) :
    putAll entries (pair :: rest) = putAll (put pair.1 pair.2 entries) rest :=
  rfl

theorem putAll_append (entries pairs later : Entries α) :
    putAll entries (pairs ++ later) = putAll (putAll entries pairs) later :=
  List.foldl_append

/-- The keys after many writes: the old ones, then the new ones in the order of their first
    writes. -/
theorem keys_putAll (entries pairs : Entries α) :
    keys (putAll entries pairs) =
      keys entries ++ ((keys pairs).filter fun k => k ∉ keys entries).eraseDups := by
  induction pairs generalizing entries with
  | nil => exact (List.append_nil _).symm
  | cons pair rest ih =>
    obtain ⟨k, v⟩ := pair
    have hpairs : keys ((k, v) :: rest) = k :: keys rest := rfl
    rw [putAll_cons, ih, keys_put, hpairs]
    by_cases hk : k ∈ keys entries
    · simp [hk]
    · have hnew : ∀ l, decide (l ∉ keys entries ++ [k]) =
          (!l == k && decide (l ∉ keys entries)) := by
        intro l
        by_cases hl : l = k <;> simp [hl]
      rw [if_neg hk, List.filter_cons, if_pos (decide_eq_true hk), List.eraseDups_cons,
        List.filter_filter, List.append_assoc, List.singleton_append]
      simp only [hnew]

theorem nodup_keys_putAll {entries : Entries α} (h : (keys entries).Nodup) (pairs : Entries α) :
    (keys (putAll entries pairs)).Nodup := by
  induction pairs generalizing entries with
  | nil => exact h
  | cons pair rest ih => exact ih (nodup_keys_put h pair.1 pair.2)

/-- What many writes leave under a key: the value that was written last, or the old one. -/
theorem lookup_putAll (entries pairs : Entries α) (key : String) :
    (putAll entries pairs).lookup key =
      (pairs.reverse.lookup key).or (entries.lookup key) := by
  induction pairs generalizing entries with
  | nil => rfl
  | cons pair rest ih =>
    obtain ⟨k, v⟩ := pair
    rw [putAll_cons, ih, lookup_put, List.reverse_cons,
      List.lookup_append, Option.or_assoc, lookup_cons]
    split_ifs <;> rfl

/-- New keys are appended one after the other. -/
theorem putAll_eq_append {entries pairs : Entries α} (h : (keys (entries ++ pairs)).Nodup) :
    putAll entries pairs = entries ++ pairs := by
  induction pairs generalizing entries with
  | nil => exact (List.append_nil _).symm
  | cons pair rest ih =>
    obtain ⟨k, v⟩ := pair
    rw [List.append_cons] at h
    have hnew : k ∉ keys entries := by
      rw [keys, List.map_append, List.map_append] at h
      have hleft := (List.nodup_append.1 (List.nodup_append.1 h).1).2.2
      exact fun hmem => hleft _ hmem _ (List.mem_singleton_self _) rfl
    rw [putAll_cons, put_of_notMem v hnew, ih h, ← List.append_cons]

theorem putAll_nil {pairs : Entries α} (h : (keys pairs).Nodup) : putAll [] pairs = pairs :=
  putAll_eq_append h

/-- Keys that are written one after the other stand in the order of their first writes. -/
theorem keys_putAll_nil (pairs : Entries α) :
    keys (putAll [] pairs) = (keys pairs).eraseDups := by
  have hnew : ((keys pairs).filter fun k => k ∉ keys ([] : Entries α)) = keys pairs :=
    List.filter_eq_self.2 fun k _ => decide_eq_true List.not_mem_nil
  rw [keys_putAll, hnew]
  rfl

theorem lookup_putAll_nil (pairs : Entries α) (key : String) :
    (putAll [] pairs).lookup key = pairs.reverse.lookup key := by
  rw [lookup_putAll]
  exact Option.or_none

theorem mem_keys_putAll (entries pairs : Entries α) (k : String) :
    k ∈ keys (putAll entries pairs) ↔ k ∈ keys entries ∨ k ∈ keys pairs := by
  induction pairs generalizing entries with
  | nil => exact (or_iff_left (List.not_mem_nil)).symm
  | cons pair rest ih =>
    rw [putAll_cons, ih, mem_keys_put, or_comm (a := k = pair.1), or_assoc]
    exact or_congr_right List.mem_cons.symm

/-- A write that comes before other entries are written over some, or after that. -/
theorem putAll_put {entries later : Entries α} (h : (keys entries).Nodup)
    (hlater : (keys later).Nodup) (key : String) (value : α) :
    putAll entries (put key value later) = put key value (putAll entries later) := by
  by_cases hkey : key ∈ keys later
  · have hkeys : keys (put key value later) = keys later := by
      rw [keys_put, if_pos hkey]
    refine ext (nodup_keys_putAll h _) ?_ fun k => ?_
    · rw [keys_putAll, hkeys, ← keys_putAll, keys_put,
        if_pos ((mem_keys_putAll entries later key).2 (.inr hkey))]
    · rw [lookup_putAll, lookup_reverse (nodup_keys_put hlater key value), lookup_put, lookup_put,
        lookup_putAll, lookup_reverse hlater]
      split_ifs <;> rfl
  · rw [put_of_notMem value hkey, putAll_append]
    rfl

/-- Entries that were written over others can be written over some, or all writes be made one after
    the other. -/
theorem putAll_putAll {entries later : Entries α} (h : (keys entries).Nodup)
    (hlater : (keys later).Nodup) (pairs : Entries α) :
    putAll entries (putAll later pairs) = putAll (putAll entries later) pairs := by
  induction pairs generalizing later with
  | nil => rfl
  | cons pair rest ih =>
    rw [putAll_cons, putAll_cons, ih (nodup_keys_put hlater pair.1 pair.2),
      putAll_put h hlater pair.1 pair.2]

/-- Entries that are written over themselves stay as they are. -/
theorem putAll_self {entries : Entries α} (h : (keys entries).Nodup) :
    putAll entries entries = entries := by
  refine ext (nodup_keys_putAll h entries) ?_ fun key => ?_
  · have hold : ((keys entries).filter fun k => k ∉ keys entries) = [] :=
      List.filter_eq_nil_iff.2 fun k hk => by simpa using hk
    rw [keys_putAll, hold, List.eraseDups_nil, List.append_nil]
  · rw [lookup_putAll, lookup_reverse h, Option.or_self]

end Entries

end InfraDiagram

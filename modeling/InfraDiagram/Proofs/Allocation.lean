import InfraDiagram.Diagram.Allocation
import InfraDiagram.Proofs.Identifiers
import Mathlib.Data.List.NodupEquivFin
import Mathlib.Data.List.Perm.Subperm

/-!
# Fresh names

The search for a free number always finds one, so what a pool hands out is new in its canonical
form.

## Main statements

- `leastFree_spec` — the number found is free, and no smaller one is
- `IdPool.canonical_choose_notMem`, `IdPool.isIdentifier_choose` — what a pool hands out
- `IdPool.canonical_choose_cluster` — identifiers of clusters keep their prefix
-/

namespace InfraDiagram

open Dot Text

/-- Among more numbers than there are taken names, one has a free name. -/
theorem exists_lt_notMem (taken : List String) {name : Nat → String}
    (hname : Function.Injective name) : ∃ i < taken.length + 1, name (i + 2) ∉ taken := by
  -- otherwise all of these names are taken, and they are more than the taken ones
  by_contra hall
  push Not at hall
  have hnodup : ((List.range (taken.length + 1)).map fun i => name (i + 2)).Nodup :=
    List.nodup_range.map fun i j h => by simpa using hname h
  have hsub : ((List.range (taken.length + 1)).map fun i => name (i + 2)) ⊆ taken := by
    intro s hs
    obtain ⟨i, hi, rfl⟩ := List.mem_map.1 hs
    exact hall i (List.mem_range.1 hi)
  have hlen := (List.subperm_of_subset hnodup hsub).length_le
  simp only [List.length_map, List.length_range] at hlen
  omega

/-- The search finds the least number from two upwards whose name is free. -/
theorem leastFree_spec (taken : List String) {name : Nat → String}
    (hname : Function.Injective name) :
    2 ≤ leastFree taken name ∧ name (leastFree taken name) ∉ taken ∧
      ∀ m, 2 ≤ m → m < leastFree taken name → name m ∈ taken := by
  obtain ⟨i, hi, hfree⟩ := exists_lt_notMem taken hname
  obtain ⟨j, hj⟩ : ∃ j, (List.range (taken.length + 1)).find?
      ((fun n => !taken.contains (name n)) ∘ (· + 2)) = some j := by
    rw [← Option.isSome_iff_exists, List.find?_isSome]
    exact ⟨i, List.mem_range.2 hi, by simpa using hfree⟩
  have heq : leastFree taken name = j + 2 := by
    simp only [leastFree, List.find?_map, hj, Option.map_some, Option.getD_some]
  rw [List.find?_range_eq_some] at hj
  rw [heq]
  refine ⟨by omega, by simpa using hj.1, fun m h2 hm => ?_⟩
  have hm' := hj.2.2 (m - 2) (by omega)
  simpa [Nat.sub_add_cancel h2] using hm'

namespace IdPool

/-- What a pool hands out: the identifier of the name if it is new, else the least number of it that
    is. -/
theorem choose_cases (pool : IdPool) (key : String) :
    (Id.canonical (Id.ofName key) ∉ pool.taken ∧ pool.choose key = (Id.ofName key, false)) ∨
      (Id.canonical (Id.ofName key) ∈ pool.taken ∧ ∃ n, 2 ≤ n ∧
        Id.canonical (Id.suffixed (Id.ofName key) n) ∉ pool.taken ∧
        (∀ m, 2 ≤ m → m < n → Id.canonical (Id.suffixed (Id.ofName key) m) ∈ pool.taken) ∧
        pool.choose key = (Id.suffixed (Id.ofName key) n, true)) := by
  by_cases h : Id.canonical (Id.ofName key) ∈ pool.taken
  · obtain ⟨htwo, hfree, hleast⟩ :=
      leastFree_spec pool.taken (Id.canonical_suffixed_injective (Id.ofName key))
    exact .inr ⟨h, _, htwo, hfree, hleast, by simp [choose, h]⟩
  · exact .inl ⟨h, by simp [choose, h]⟩

theorem canonical_choose_notMem (pool : IdPool) (key : String) :
    Id.canonical (pool.choose key).1 ∉ pool.taken := by
  obtain ⟨hfree, heq⟩ | ⟨-, n, -, hfree, -, heq⟩ := pool.choose_cases key
  · rwa [heq]
  · rwa [heq]

theorem isIdentifier_choose (pool : IdPool) (key : String) :
    Id.IsIdentifier (pool.choose key).1 := by
  obtain ⟨-, heq⟩ | ⟨-, n, -, -, -, heq⟩ := pool.choose_cases key
  · rw [heq]
    exact Id.isIdentifier_ofName key
  · rw [heq]
    exact Id.isIdentifier_suffixed (Id.isIdentifier_ofName key) n

@[simp]
theorem allocate_fst (pool : IdPool) (key : String) :
    (pool.allocate key).1 = pool.choose key := rfl

@[simp]
theorem allocate_taken (pool : IdPool) (key : String) :
    (pool.allocate key).2.taken = Id.canonical (pool.choose key).1 :: pool.taken := rfl

/-- The canonical form of a number of an identifier begins like that of the identifier. -/
theorem canonical_choose (pool : IdPool) (key : String) :
    ∃ rest, Id.canonical (pool.choose key).1 = Id.canonical (Id.ofName key) ++ rest := by
  obtain ⟨-, heq⟩ | ⟨-, n, -, -, -, heq⟩ := pool.choose_cases key
  · exact ⟨"", by simp [heq]⟩
  · exact ⟨_, by rw [heq, Id.canonical_suffixed, String.append_assoc]⟩

end IdPool

/-- Names that begin like clusters do not begin with a quote, and nothing of their beginning needs
    escaping. -/
theorem Dot.Id.canonical_ofName_cluster (key : String) :
    ∃ rest, Id.canonical (Id.ofName ("cluster_" ++ key)) = "cluster_" ++ rest := by
  have hnot : Id.isQuoted ("cluster_" ++ key) = false := by
    by_contra hq
    obtain ⟨cs, -, hs⟩ := Id.isQuoted_iff.1 ((Bool.not_eq_false _).mp hq)
    simp at hs
  by_cases hb : Id.isBare ("cluster_" ++ key) = true
  · exact ⟨key, by simp [Id.ofName, hb, Id.canonical_of_not_quoted hnot]⟩
  · refine ⟨String.ofList (escape key.toList), ?_⟩
    have hquote : (quote ("cluster_" ++ key)).toList =
        '"' :: (escape ("cluster_" ++ key).toList ++ ['"']) := by simp [quote]
    have hplain : escape "cluster_".toList = "cluster_".toList := by decide
    rw [Id.ofName, if_neg (by simp [hb, hnot]),
      Id.canonical_of_quoted (Id.isEscaped_escape _) hquote, ← String.toList_inj]
    simp only [escape] at hplain
    simp only [escape, String.toList_append, List.flatMap_append, hplain, String.toList_ofList]

/-- Identifiers of clusters keep the prefix that marks them. -/
theorem IdPool.canonical_choose_cluster (pool : IdPool) (key : String) :
    ∃ rest, Id.canonical (pool.choose ("cluster_" ++ key)).1 = "cluster_" ++ rest := by
  obtain ⟨rest, h⟩ := pool.canonical_choose ("cluster_" ++ key)
  obtain ⟨inner, hinner⟩ := Id.canonical_ofName_cluster key
  exact ⟨inner ++ rest, by rw [h, hinner, String.append_assoc]⟩

end InfraDiagram

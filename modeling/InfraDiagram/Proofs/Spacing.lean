import InfraDiagram.Proofs.Documents
import Mathlib.Data.List.TakeWhile

/-!
# White space around ids

A token loses the white space around it, and an id may keep it. This happens to bare names only: an
id from a field is trimmed when it is read, and the text of a number has no white space at all.

## Main definitions

- `IsTrimmed` — a text that trimming leaves as it is
- `IsSpaceless` — a text without any white space

## Main statements

- `isSpaceless_numberText` — the texts of numbers
- `Field.isTrimmed_text` — what fields give
- `Device.isTrimmed_id` — the ids of devices that have ports
-/

namespace InfraDiagram

namespace Text

/-- A text without white space around it. -/
def IsTrimmed (s : String) : Prop :=
  trim s = s

/-- A text without any white space. -/
def IsSpaceless (s : String) : Prop :=
  ∀ c ∈ s.toList, isSpace c = false

-- by the characters of the text, not by all characters that there are
instance (s : String) : Decidable (IsSpaceless s) :=
  decidable_of_iff (s.toList.all (fun c => !isSpace c) = true) (by simp [IsSpaceless])

theorem dropSpaceEnd_eq_self {cs : List Char} (h : ∀ c ∈ cs, isSpace c = false) :
    dropSpaceEnd cs = cs := by
  induction cs with
  | nil => rfl
  | cons c cs ih =>
    rw [List.forall_mem_cons] at h
    rw [dropSpaceEnd_cons, h.1, Bool.and_false, if_neg Bool.false_ne_true, ih h.2]

theorem IsSpaceless.isTrimmed {s : String} (h : IsSpaceless s) : IsTrimmed s := by
  have hstart : s.toList.dropWhile isSpace = s.toList := by
    rw [List.dropWhile_eq_self_iff]
    intro hlength
    simp [h _ (List.getElem_mem hlength)]
  rw [IsTrimmed, trim, hstart, dropSpaceEnd_eq_self h, String.ofList_toList]

theorem IsSpaceless.append {s t : String} (hs : IsSpaceless s) (ht : IsSpaceless t) :
    IsSpaceless (s ++ t) := by
  intro c hc
  rw [String.toList_append, List.mem_append] at hc
  exact hc.elim (hs c) (ht c)

theorem IsSpaceless.ite {p : Prop} [Decidable p] {s t : String} (hs : IsSpaceless s)
    (ht : IsSpaceless t) : IsSpaceless (if p then s else t) := by
  split_ifs
  · exact hs
  · exact ht

theorem isSpace_of_isAsciiDigit {c : Char} (h : isAsciiDigit c = true) : isSpace c = false := by
  simp only [isAsciiDigit, Bool.and_eq_true, decide_eq_true_eq, Char.le_def] at h
  have h1 : 48 ≤ c.val.toNat := h.1
  have h2 : c.val.toNat ≤ 57 := h.2
  simp only [isSpace, Bool.or_eq_false_iff, Bool.and_eq_false_iff, decide_eq_false_iff_not,
    beq_eq_false_iff_ne, UInt32.le_iff_toNat_le, ne_eq, ← UInt32.toNat_inj, UInt32.reduceToNat]
  omega

-- ════════════════════════════════════════════════════════════════════════
-- Numbers
-- ════════════════════════════════════════════════════════════════════════

theorem isSpaceless_toString (n : Nat) : IsSpaceless (toString n) :=
  fun _ hc => isSpace_of_isAsciiDigit (Dot.Id.isAsciiDigit_of_mem_toString hc)

/-- A text that is made of digits. -/
theorem isSpaceless_ofDigits {n : Nat} {cs : List Char} (h : cs ⊆ Nat.toDigits 10 n) :
    IsSpaceless (String.ofList cs) := by
  intro c hc
  refine isSpaceless_toString n c ?_
  rw [String.toList_ofList] at hc
  simpa using h hc

theorem isSpaceless_zeros (n : Nat) : IsSpaceless (NumeralLayout.zeros n) := by
  intro c hc
  rw [NumeralLayout.zeros, String.toList_ofList] at hc
  rw [List.eq_of_mem_replicate hc]
  decide

theorem isSpaceless_positional (n : Nat) (e : Int) :
    IsSpaceless (NumeralLayout.positional (Nat.toDigits 10 n) e) := by
  have hall : IsSpaceless (String.ofList (Nat.toDigits 10 n)) := isSpaceless_ofDigits (.refl _)
  unfold NumeralLayout.positional
  refine .ite (.append (.append (by decide) (isSpaceless_zeros _)) hall) (.ite ?_ ?_)
  · exact .append (hall.append (isSpaceless_zeros _)) (by decide)
  · exact .append (.append (isSpaceless_ofDigits (List.take_subset _ _)) (by decide))
      (isSpaceless_ofDigits (List.drop_subset _ _))

theorem isSpaceless_scientific (layout : NumeralLayout) (n : Nat) (e : Int) :
    IsSpaceless (layout.scientific (Nat.toDigits 10 n) e) := by
  unfold NumeralLayout.scientific
  refine .append (.append (.append ?_ (by decide)) ?_) (isSpaceless_toString _)
  · split
    · decide
    · rename_i hdigits
      exact isSpaceless_ofDigits (n := n) (hdigits ▸ .refl _)
    · rename_i d rest _ hdigits
      have hfirst : IsSpaceless (String.ofList [d]) :=
        isSpaceless_ofDigits (n := n) (by simp [hdigits])
      have hpoint : String.ofList [d, '.'] = String.ofList [d] ++ "." := by
        rw [← String.toList_inj]
        simp
      rw [hpoint]
      exact .append (.append hfirst (by decide)) (isSpaceless_ofDigits (n := n) (by simp [hdigits]))
  · exact .ite (by decide) (.ite (by decide) (by decide))

theorem isSpaceless_numberText (n : Number) : IsSpaceless n.text := by
  cases n with
  | int i =>
    cases i with
    | ofNat n => exact isSpaceless_toString n
    | negSucc n => exact .append (s := "-") (by decide) (isSpaceless_toString (n + 1))
  | float x =>
    have hsign : IsSpaceless (if x.negative then "-" else "") := .ite (by decide) (by decide)
    exact .ite (hsign.append (by decide))
      (hsign.append (.ite (isSpaceless_positional _ _) (isSpaceless_scientific _ _ _)))

end Text

-- ════════════════════════════════════════════════════════════════════════
-- Ids
-- ════════════════════════════════════════════════════════════════════════

open Text

namespace Field

theorem isTrimmed_scalarText {v : Value} {s : String} (h : scalarText v = some s) :
    IsTrimmed s := by
  cases v with
  | text raw =>
    rw [scalarText] at h
    split_ifs at h
    cases h
    exact trim_trim raw
  | number n =>
    cases h
    exact (isSpaceless_numberText n).isTrimmed
  | bool b =>
    cases h
    exact IsSpaceless.isTrimmed (by cases b <;> decide)
  | _ => cases h

theorem isTrimmed_text {m : Mapping} {key s : String} (h : text m key = some s) : IsTrimmed s := by
  obtain ⟨v, -, hv⟩ := Option.bind_eq_some_iff.1 h
  exact isTrimmed_scalarText hv

theorem isTrimmed_firstText {m : Mapping} {keys : List String} {s : String}
    (h : firstText m keys = some s) : IsTrimmed s := by
  obtain ⟨key, -, hkey⟩ := List.exists_of_findSome?_eq_some h
  exact isTrimmed_text hkey

end Field

/-- The id of a device is trimmed unless the device is no more than its id; then it has no
    ports. -/
theorem Device.isTrimmed_id {v : Value} {parent type : String} {index : Nat} {path : Path}
    {d : Device} (h : ofValue v parent index path type = .ok d) (hparent : IsSpaceless parent)
    (hports : d.ports ≠ []) : IsTrimmed d.id := by
  cases v with
  | text id =>
    cases h
    exact absurd rfl hports
  | mapping m =>
    obtain ⟨ports, -, h⟩ := exists_of_bind_eq_ok h
    cases h
    cases hid : Field.firstText m ["id", "name", "hostname"] with
    | none =>
      have hnumbered : IsSpaceless (parent ++ "_" ++ toString (index + 1)) :=
        (hparent.append (by decide)).append (isSpaceless_toString _)
      exact hnumbered.isTrimmed
    | some id => exact Field.isTrimmed_firstText hid
  | _ => cases h

end InfraDiagram

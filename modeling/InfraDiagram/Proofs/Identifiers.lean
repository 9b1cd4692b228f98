import InfraDiagram.Dot.Id
import Mathlib.Data.List.Basic

/-!
# Identifiers and quoted text

What stands between quotes cannot end them, and a number attached to an identifier gives another
identifier whose identity carries the number at its end.

## Main definitions

- `Id.IsIdentifier` — bare and quoted identifiers

## Main statements

- `Id.isQuoted_iff` — the shape of quoted identifiers
- `Id.isIdentifier_ofName`, `Id.isIdentifier_suffixed` — names and numbered identifiers
- `Id.canonical_suffixed` — the identity of a numbered identifier
-/

namespace InfraDiagram.Dot.Id

open Text

/-- A character that is neither a backslash at the end nor one in front of another character. -/
theorem ne_backslash {c : Char} {rest : List Char} (hend : c = '\\' → rest = [] → False)
    (hpair : ∀ e cs, c = '\\' → rest = e :: cs → False) : c ≠ '\\' := by
  rintro rfl
  cases rest with
  | nil => exact hend rfl rfl
  | cons e cs => exact hpair e cs rfl rfl

theorem isEscaped_append {cs ds : List Char} (hc : isEscaped cs = true)
    (hd : isEscaped ds = true) : isEscaped (cs ++ ds) = true := by
  fun_induction isEscaped cs with
  | case1 => exact hd
  | case2 => simp at hc
  | case3 e rest ih => simpa only [List.cons_append, isEscaped] using ih hc
  | case4 c rest h1 h2 ih =>
    have hne : c ≠ '\\' := ne_backslash h1 h2
    simp only [Bool.and_eq_true] at hc
    simp [isEscaped, hne, hc.1.1, hc.1.2, ih hc.2]

/-- Text without backslashes, quotes and control characters needs no escaping. -/
theorem isEscaped_of_plain {cs : List Char}
    (h : ∀ c ∈ cs, c ≠ '\\' ∧ c ≠ '"' ∧ isControl c = false) : isEscaped cs = true := by
  induction cs with
  | nil => rfl
  | cons c rest ih =>
    obtain ⟨hb, hq, hn⟩ := h c (by simp)
    simp [isEscaped, hb, hq, hn, ih fun d hd => h d (by simp [hd])]

theorem isEscaped_escapeChar (c : Char) : isEscaped (escapeChar c) = true := by
  unfold escapeChar
  split_ifs with hb hq hn ht hc
  all_goals first | rfl | simp_all [isEscaped]

theorem isEscaped_escape (cs : List Char) : isEscaped (escape cs) = true := by
  induction cs with
  | nil => rfl
  | cons c rest ih => exact isEscaped_append (isEscaped_escapeChar c) ih

theorem inner?_eq_some_iff {xs cs : List Char} :
    inner? xs = some cs ↔ xs = '"' :: (cs ++ ['"']) := by
  constructor
  · intro h
    unfold inner? at h
    split at h
    · rename_i rest
      split_ifs at h with hlast
      obtain rfl : rest.dropLast = cs := by simpa using h
      rw [List.dropLast_append_getLast? _ hlast]
    · simp at h
  · rintro rfl
    simp [inner?]

theorem isQuoted_iff {s : String} :
    isQuoted s = true ↔ ∃ cs, isEscaped cs = true ∧ s.toList = '"' :: (cs ++ ['"']) := by
  simp only [isQuoted, Option.any_eq_true, inner?_eq_some_iff]
  exact exists_congr fun cs => and_comm

theorem isQuoted_quote (s : String) : isQuoted (quote s) = true :=
  isQuoted_iff.2 ⟨escape s.toList, isEscaped_escape _, by simp [quote]⟩

theorem canonical_of_quoted {s : String} {cs : List Char} (hc : isEscaped cs = true)
    (hs : s.toList = '"' :: (cs ++ ['"'])) : canonical s = String.ofList cs := by
  simp [canonical, inner?_eq_some_iff.2 hs, hc]

theorem canonical_of_not_quoted {s : String} (h : isQuoted s = false) : canonical s = s := by
  unfold canonical
  split
  · rename_i cs hcs
    simp only [isQuoted, hcs, Option.any_some] at h
    simp [h]
  · rfl

theorem isAsciiDigit_of_mem_toString {n : Nat} {c : Char} (h : c ∈ (toString n).toList) :
    isAsciiDigit c = true := by
  have hd : c.isDigit = true :=
    Nat.isDigit_of_mem_toDigits (b := 10) (by decide) (by decide) (by simpa using h)
  simp only [Char.isDigit, Bool.and_eq_true, decide_eq_true_eq] at hd
  simpa [isAsciiDigit, Char.le_def] using hd

theorem toString_injective {m n : Nat} (h : toString m = toString n) : m = n := by
  have hd : Nat.toDigits 10 m = Nat.toDigits 10 n := by simpa using congrArg String.toList h
  rw [← Nat.ofDigitChars_toDigits (b := 10) (n := m) (by decide) (by decide), hd,
    Nat.ofDigitChars_toDigits (by decide) (by decide)]

/-- Digits are neither quotes nor backslashes nor control characters. -/
theorem plain_of_isAsciiDigit {c : Char} (h : isAsciiDigit c = true) :
    c ≠ '\\' ∧ c ≠ '"' ∧ isControl c = false := by
  simp only [isAsciiDigit, Bool.and_eq_true, decide_eq_true_eq, Char.le_def] at h
  refine ⟨?_, ?_, ?_⟩
  · rintro rfl
    exact absurd h.2 (by decide)
  · rintro rfl
    exact absurd h.1 (by decide)
  · have h1 : 48 ≤ c.val.toNat := h.1
    have h2 : c.val.toNat ≤ 57 := h.2
    simp only [isControl, UInt32.lt_iff_toNat_lt, UInt32.le_iff_toNat_le, Bool.or_eq_false_iff,
      Bool.and_eq_false_iff, decide_eq_false_iff_not]
    constructor
    · exact Nat.not_lt.2 (Nat.le_trans (by decide) h1)
    · exact .inl (Nat.not_le.2 (Nat.lt_of_le_of_lt h2 (by decide)))

/-- Letters are none of these either. -/
theorem plain_of_isAsciiLetter {c : Char} (h : isAsciiLetter c = true) :
    c ≠ '\\' ∧ c ≠ '"' ∧ isControl c = false := by
  simp only [isAsciiLetter, Bool.or_eq_true, Bool.and_eq_true, decide_eq_true_eq, Char.le_def,
    UInt32.le_iff_toNat_le] at h
  have hrange : 65 ≤ c.val.toNat ∧ c.val.toNat ≤ 90 ∨ 97 ≤ c.val.toNat ∧ c.val.toNat ≤ 122 := by
    exact h.symm
  refine ⟨?_, ?_, ?_⟩
  · rintro rfl
    exact absurd hrange (by decide)
  · rintro rfl
    exact absurd hrange (by decide)
  · simp only [isControl, UInt32.lt_iff_toNat_lt, UInt32.le_iff_toNat_le, Bool.or_eq_false_iff,
      Bool.and_eq_false_iff, decide_eq_false_iff_not, UInt32.reduceToNat]
    omega

theorem plain_of_isWordChar {c : Char} (h : isWordChar c = true) :
    c ≠ '\\' ∧ c ≠ '"' ∧ isControl c = false := by
  simp only [isWordChar, isStart, Bool.or_eq_true, decide_eq_true_eq] at h
  rcases h with (hletter | rfl) | hdigit
  · exact plain_of_isAsciiLetter hletter
  · decide
  · exact plain_of_isAsciiDigit hdigit

theorem isEscaped_number (n : Nat) : isEscaped ('_' :: (toString n).toList) = true := by
  refine isEscaped_of_plain fun c hc => ?_
  rcases List.mem_cons.1 hc with rfl | hc
  · decide
  · exact plain_of_isAsciiDigit (isAsciiDigit_of_mem_toString hc)

/-- A text that a statement can use as an identifier as it stands. -/
def IsIdentifier (s : String) : Prop :=
  isBare s = true ∨ isQuoted s = true

instance (s : String) : Decidable (IsIdentifier s) :=
  inferInstanceAs (Decidable (_ ∨ _))

theorem isIdentifier_ofName (s : String) : IsIdentifier (ofName s) := by
  unfold ofName
  split_ifs with h
  · exact (Bool.or_eq_true _ _).mp h
  · exact .inr (isQuoted_quote s)

theorem isWordChar_of_isWord {cs : List Char} (h : isWord cs = true) :
    ∀ c ∈ cs, isWordChar c = true := by
  cases cs with
  | nil => simp
  | cons c rest =>
    simp only [isWord, Bool.and_eq_true, List.all_eq_true] at h
    intro d hd
    rcases List.mem_cons.1 hd with rfl | hd
    · simp [isWordChar, h.1]
    · exact h.2 d hd

theorem isWord_append {cs ds : List Char} (hc : isWord cs = true)
    (hd : ∀ d ∈ ds, isWordChar d = true) : isWord (cs ++ ds) = true := by
  cases cs with
  | nil => simp [isWord] at hc
  | cons c rest =>
    simp only [isWord, Bool.and_eq_true, List.all_eq_true] at hc
    simp only [List.cons_append, isWord, Bool.and_eq_true, List.all_append, List.all_eq_true]
    exact ⟨hc.1, hc.2, hd⟩

/-- A text with a character that no reserved word has is not one of them. -/
theorem not_reserved_of_mem {s : String} {c : Char} (h : c ∈ s.toList) (hlow : c.toLower = c)
    (hfree : ∀ w ∈ reserved, c ∉ (toLowerAscii w).toList) :
    reserved.any (eqIgnoreAsciiCase s) = false := by
  have hs : c ∈ (toLowerAscii s).toList := by
    simpa [toLowerAscii] using ⟨c, h, hlow⟩
  rw [List.any_eq_false]
  intro w hw heq
  have hlower : toLowerAscii s = toLowerAscii w := by simpa [eqIgnoreAsciiCase] using heq
  exact hfree w hw (hlower ▸ hs)

theorem isBare_append_number {s : String} (h : isBare s = true) (n : Nat) :
    isBare (s ++ "_" ++ toString n) = true := by
  simp only [isBare, Bool.and_eq_true] at h
  have hword : isWord (s ++ "_" ++ toString n).toList = true := by
    simp only [String.toList_append]
    refine isWord_append (isWord_append h.1 (by simp [isWordChar, isStart])) fun d hd => ?_
    simp [isWordChar, isAsciiDigit_of_mem_toString hd]
  have hfree := not_reserved_of_mem (s := s ++ "_" ++ toString n) (c := '_') (by simp)
    (by decide) (by decide)
  rw [isBare, hword, hfree]
  rfl

/-- Bare identifiers are not quoted. -/
theorem isQuoted_of_isBare {s : String} (h : isBare s = true) : isQuoted s = false := by
  by_contra hq
  obtain ⟨cs, -, hs⟩ := isQuoted_iff.1 (by simpa using hq)
  simp [isBare, hs, isWord, isStart, isAsciiLetter] at h

theorem toList_suffixed_of_quoted {s : String} {cs : List Char} (hc : isEscaped cs = true)
    (hs : s.toList = '"' :: (cs ++ ['"'])) (n : Nat) :
    (suffixed s n).toList = '"' :: (cs ++ '_' :: (toString n).toList ++ ['"']) := by
  simp [suffixed, isQuoted_iff.2 ⟨cs, hc, hs⟩, canonical_of_quoted hc hs]

theorem isIdentifier_suffixed {s : String} (h : IsIdentifier s) (n : Nat) :
    IsIdentifier (suffixed s n) := by
  rcases h with hb | hq
  · left
    simpa [suffixed, isQuoted_of_isBare hb] using isBare_append_number hb n
  · obtain ⟨cs, hc, hs⟩ := isQuoted_iff.1 hq
    right
    exact isQuoted_iff.2 ⟨_, isEscaped_append hc (isEscaped_number n),
      toList_suffixed_of_quoted hc hs n⟩

/-- An unquoted text with a number at its end is not quoted either. -/
theorem isQuoted_append_number (s : String) (n : Nat) :
    isQuoted (s ++ "_" ++ toString n) = false := by
  by_contra hq
  obtain ⟨cs, -, hs⟩ := isQuoted_iff.1 ((Bool.not_eq_false _).mp hq)
  have hne : (toString n).toList ≠ [] := by simp
  have hlast : (toString n).toList.getLast? = some '"' := by
    have hl := congrArg List.getLast? hs
    rw [String.toList_append, List.getLast?_append_of_ne_nil _ hne, ← List.cons_append,
      List.getLast?_concat] at hl
    exact hl
  exact absurd (isAsciiDigit_of_mem_toString (List.mem_of_getLast? hlast)) (by decide)

/-- The identity of a numbered identifier is the identity with the number at its end. -/
theorem canonical_suffixed (s : String) (n : Nat) :
    canonical (suffixed s n) = canonical s ++ "_" ++ toString n := by
  by_cases hq : isQuoted s = true
  · obtain ⟨cs, hc, hs⟩ := isQuoted_iff.1 hq
    rw [canonical_of_quoted (isEscaped_append hc (isEscaped_number n))
      (toList_suffixed_of_quoted hc hs n), canonical_of_quoted hc hs, ← String.toList_inj]
    simp
  · have hq : isQuoted s = false := by simpa using hq
    rw [canonical_of_not_quoted hq]
    simp only [suffixed, hq, Bool.false_eq_true, if_false]
    exact canonical_of_not_quoted (isQuoted_append_number s n)

theorem canonical_suffixed_injective (s : String) :
    Function.Injective fun n => canonical (suffixed s n) := by
  intro m n h
  simp only [canonical_suffixed] at h
  exact toString_injective (String.append_right_inj _ |>.1 h)

end InfraDiagram.Dot.Id

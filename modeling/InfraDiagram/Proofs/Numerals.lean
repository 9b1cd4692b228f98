import InfraDiagram.Document.Yaml.BlockStyle
import InfraDiagram.Proofs.Identifiers
import InfraDiagram.Proofs.ShortestForms
import Mathlib.Data.List.TakeWhile

/-!
# Numerals

Numbers are read back from their text: a layout puts the digits of a shortest form around a point
and an exponent, and a reader takes them apart again. So different numbers have different texts.

## Main definitions

- `Text.IsDigits` — a run of digits
- `Yaml.IsNumeral` — a numeral that is read as digits and an exponent

## Main statements

- `Text.natOfDigits_toDigits` — digits denote the number that they are the digits of
- `Text.exists_zeros_toDigits` — digits are zeros and the numeral of what they denote
- `Yaml.isNumeral_positional`, `Yaml.isNumeral_scientific` — the two layouts
- `Yaml.fraction?_text` — fractions, infinities and not-a-number are read back
- `Yaml.Number.text_injective` — different numbers have different texts
-/

namespace InfraDiagram

open Text

-- ════════════════════════════════════════════════════════════════════════
-- Digits
-- ════════════════════════════════════════════════════════════════════════

namespace Text

/-- A run of digits. -/
def IsDigits (cs : List Char) : Prop :=
  ∀ c ∈ cs, isAsciiDigit c = true

theorem isDigits_toDigits (n : Nat) : IsDigits (Nat.toDigits 10 n) := by
  intro c hc
  exact Dot.Id.isAsciiDigit_of_mem_toString (n := n) (by simpa using hc)

theorem isDigits_replicate (k : Nat) : IsDigits (List.replicate k '0') := by
  intro c hc
  rw [List.eq_of_mem_replicate hc]
  decide

theorem IsDigits.append {cs ds : List Char} (hcs : IsDigits cs) (hds : IsDigits ds) :
    IsDigits (cs ++ ds) := by
  intro c hc
  exact (List.mem_append.1 hc).elim (hcs c) (hds c)

theorem IsDigits.sublist {cs ds : List Char} (h : IsDigits cs) (hds : ds.Sublist cs) :
    IsDigits ds :=
  fun c hc => h c (hds.subset hc)

theorem digitValue_lt (c : Char) : digitValue c < 10 := by
  unfold digitValue
  split_ifs with hc
  · have hnine : c.toNat ≤ 57 := by
      simp only [isAsciiDigit, Bool.and_eq_true, decide_eq_true_eq, Char.le_def,
        UInt32.le_iff_toNat_le] at hc
      exact hc.2
    change c.toNat - 48 < 10
    omega
  · decide

theorem digitChar_digitValue {c : Char} (h : isAsciiDigit c = true) :
    Nat.digitChar (digitValue c) = c := by
  have hzero : 48 ≤ c.toNat := by
    simp only [isAsciiDigit, Bool.and_eq_true, decide_eq_true_eq, Char.le_def,
      UInt32.le_iff_toNat_le] at h
    exact h.1
  have hvalue : digitValue c = c.toNat - 48 := if_pos h
  apply Char.toNat_inj.1
  rw [Nat.toNat_digitChar_of_lt_ten (digitValue_lt c), hvalue]
  omega

theorem natOfDigits_concat (ds : List Char) (d : Char) :
    natOfDigits (ds ++ [d]) = 10 * natOfDigits ds + digitValue d := by
  rw [natOfDigits, List.foldl_append, mul_comm]
  rfl

theorem natOfDigits_append (cs ds : List Char) :
    natOfDigits (cs ++ ds) = natOfDigits cs * 10 ^ ds.length + natOfDigits ds := by
  induction ds using List.reverseRecOn with
  | nil => simp [natOfDigits]
  | append_singleton ds d ih =>
    rw [← List.append_assoc, natOfDigits_concat, natOfDigits_concat, ih, List.length_append,
      List.length_singleton, pow_succ]
    ring

theorem natOfDigits_zeros (k : Nat) : natOfDigits (List.replicate k '0') = 0 := by
  induction k with
  | zero => rfl
  | succ k ih => rw [List.replicate_succ', natOfDigits_append, ih, Nat.zero_mul, Nat.zero_add]; rfl

/-- Leading zeros count nothing. -/
theorem natOfDigits_zeros_append (k : Nat) (ds : List Char) :
    natOfDigits (List.replicate k '0' ++ ds) = natOfDigits ds := by
  rw [natOfDigits_append, natOfDigits_zeros, Nat.zero_mul, Nat.zero_add]

theorem natOfDigits_append_zeros (ds : List Char) (k : Nat) :
    natOfDigits (ds ++ List.replicate k '0') = natOfDigits ds * 10 ^ k := by
  rw [natOfDigits_append, natOfDigits_zeros, List.length_replicate, Nat.add_zero]

/-- Digits denote the number that they are the digits of. -/
theorem natOfDigits_toDigits (n : Nat) : natOfDigits (Nat.toDigits 10 n) = n := by
  have hread : ∀ cs, IsDigits cs → natOfDigits cs = Nat.ofDigitChars 10 cs 0 := by
    intro cs hcs
    refine List.foldl_ext _ _ _ fun m c hc => ?_
    rw [digitValue, if_pos (hcs c hc), mul_comm]
  rw [hread _ (isDigits_toDigits n), Nat.ofDigitChars_toDigits (by decide) (by decide)]

/-- Digits are any number of zeros and the numeral of the number that they denote. -/
theorem exists_zeros_toDigits {ds : List Char} (hne : ds ≠ []) (h : IsDigits ds) :
    ∃ k, ds = List.replicate k '0' ++ Nat.toDigits 10 (natOfDigits ds) := by
  induction ds using List.reverseRecOn with
  | nil => exact absurd rfl hne
  | append_singleton ds d ih =>
    have hlast : Nat.toDigits 10 (digitValue d) = [d] := by
      rw [Nat.toDigits_of_lt_base (digitValue_lt d), digitChar_digitValue (h d (by simp))]
    rw [natOfDigits_concat]
    by_cases hds : ds = []
    · have hvalue : natOfDigits [] = 0 := rfl
      refine ⟨0, ?_⟩
      rw [hds, hvalue, Nat.mul_zero, Nat.zero_add, hlast]
      rfl
    obtain ⟨k, hk⟩ := ih hds (h.sublist (List.sublist_append_left ds [d]))
    by_cases hzero : natOfDigits ds = 0
    · -- the numeral of the digits before the last one is a zero as well
      refine ⟨k + 1, ?_⟩
      rw [hzero] at hk
      rw [hzero, Nat.mul_zero, Nat.zero_add, hlast, hk, List.replicate_succ']
      rfl
    · refine ⟨k, ?_⟩
      rw [← Nat.toDigits_append_toDigits (by decide) (Nat.pos_of_ne_zero hzero) (digitValue_lt d),
        hlast, ← List.append_assoc, ← hk]

/-- A run of digits ends where something else begins, or with the text. -/
theorem takeWhile_isAsciiDigit {ds rest : List Char} (hds : IsDigits ds)
    (hrest : ∀ c ∈ rest.head?, isAsciiDigit c = false) :
    (ds ++ rest).takeWhile isAsciiDigit = ds := by
  rw [List.takeWhile_append_of_pos hds]
  cases rest with
  | nil => exact List.append_nil ds
  | cons c rest => simp [hrest c rfl]

end Text

namespace Yaml

theorem digitsOf?_eq {cs : List Char} (hne : cs ≠ []) (h : IsDigits cs) :
    digitsOf? 10 cs = some (natOfDigits cs) := by
  have hvalue : ∀ c, isAsciiDigit c = true → digitOf? 10 c = some (digitValue c) := by
    intro c hc
    have hdigit : hexValue? c = some (digitValue c) := by
      rw [hexValue?, digitValue, if_pos hc, if_pos hc]
    rw [digitOf?, hdigit]
    exact if_pos (decide_eq_true (digitValue_lt c))
  have hvalues : cs.mapM (digitOf? 10) = some (cs.map digitValue) := by
    clear hne
    induction cs with
    | nil => rfl
    | cons c cs ih =>
      rw [List.mapM_cons, hvalue c (h c List.mem_cons_self),
        ih fun d hd => h d (List.mem_cons_of_mem _ hd)]
      rfl
  rw [digitsOf?, if_neg (by simpa using hne), hvalues, Option.map_some, List.foldl_map]
  rfl

-- ════════════════════════════════════════════════════════════════════════
-- Decimal numerals
-- ════════════════════════════════════════════════════════════════════════

/-- A run of digits ends where something else begins. -/
theorem takeWhile_digits {ds : List Char} (hds : IsDigits ds) {c : Char}
    (hc : isAsciiDigit c = false) (rest : List Char) :
    (ds ++ c :: rest).takeWhile isAsciiDigit = ds ∧
      (ds ++ c :: rest).dropWhile isAsciiDigit = c :: rest := by
  rw [List.takeWhile_append_of_pos hds, List.dropWhile_append_of_pos hds]
  simp [hc]

section
variable {negative : Bool} {whole part : List Char} (hne : whole ≠ []) (hwhole : IsDigits whole)
  (hpart : IsDigits part)
include hne hwhole hpart

theorem decimal?_point : decimal? negative (whole ++ '.' :: part) =
    Binary64.ofDecimal? negative (natOfDigits (whole ++ part)) (-part.length) := by
  obtain ⟨htake, hdrop⟩ := takeWhile_digits hwhole (c := '.') (by decide) part
  have htake' := List.takeWhile_eq_self_iff.2 hpart
  have hdrop' := List.dropWhile_eq_nil_iff.2 hpart
  simp [decimal?, htake, hdrop, htake', hdrop', hne]

theorem decimal?_point_exponent (es : List Char) :
    decimal? negative (whole ++ '.' :: (part ++ 'e' :: es)) = (exponent? es).bind fun e =>
      Binary64.ofDecimal? negative (natOfDigits (whole ++ part)) (e - part.length) := by
  obtain ⟨htake, hdrop⟩ := takeWhile_digits hwhole (c := '.') (by decide) (part ++ 'e' :: es)
  obtain ⟨htake', hdrop'⟩ := takeWhile_digits hpart (c := 'e') (by decide) es
  simp [decimal?, htake, hdrop, htake', hdrop', hne]

omit hpart in
theorem decimal?_exponent (es : List Char) : decimal? negative (whole ++ 'e' :: es) =
    (exponent? es).bind (Binary64.ofDecimal? negative (natOfDigits whole)) := by
  obtain ⟨htake, hdrop⟩ := takeWhile_digits hwhole (c := 'e') (by decide) es
  simp [decimal?, htake, hdrop, hne]

end

/-- An exponent is read back, with a plus sign or without one. -/
theorem exponent?_eq (plusSign : Bool) (e : Int) :
    exponent? ((if e < 0 then "-" else if plusSign then "+" else "").toList ++
      (toString e.natAbs).toList) = some e := by
  have htext : (toString e.natAbs).toList = Nat.toDigits 10 e.natAbs := by simp
  have hdigits := isDigits_toDigits e.natAbs
  have hread := digitsOf?_eq (Nat.toDigits_ne_nil (n := e.natAbs)) hdigits
  rw [natOfDigits_toDigits] at hread
  rw [htext]
  by_cases he : e < 0
  · simp [he, exponent?, hread, abs_of_neg he]
  have hvalue : |e| = e := abs_of_nonneg (not_lt.1 he)
  cases plusSign with
  | true => simp [he, exponent?, hread, hvalue]
  | false =>
    have hminus : ∀ rest, Nat.toDigits 10 e.natAbs ≠ '-' :: rest := by
      intro rest h
      exact absurd (hdigits '-' (by simp [h])) (by decide)
    have hplus : ∀ rest, Nat.toDigits 10 e.natAbs ≠ '+' :: rest := by
      intro rest h
      exact absurd (hdigits '+' (by simp [h])) (by decide)
    rw [if_neg he, if_neg (by decide), String.toList_empty, List.nil_append, exponent?]
    · simp [hread, hvalue]
    · exact hminus
    · exact hplus

-- ════════════════════════════════════════════════════════════════════════
-- Layouts
-- ════════════════════════════════════════════════════════════════════════

/-- A numeral that begins with a digit, has a point or an exponent, and is read as digits and an
    exponent of the given value. -/
structure IsNumeral (numeral : List Char) (n : Nat) (e : Int) : Prop where
  leading : ∃ c ∈ numeral.head?, isAsciiDigit c = true
  mark : '.' ∈ numeral ∨ 'e' ∈ numeral
  read : ∃ (digits : Nat) (exponent : Int), (digits : ℚ) * 10 ^ exponent = n * 10 ^ e ∧
    ∀ negative, decimal? negative numeral = Binary64.ofDecimal? negative digits exponent

theorem leading_of_isDigits {ds : List Char} (hne : ds ≠ []) (h : IsDigits ds) (rest : List Char) :
    ∃ c ∈ (ds ++ rest).head?, isAsciiDigit c = true := by
  cases ds with
  | nil => exact absurd rfl hne
  | cons d ds => exact ⟨d, rfl, h d List.mem_cons_self⟩

theorem IsNumeral.of_point {whole part : List Char} {n : Nat} {e : Int} (hne : whole ≠ [])
    (hwhole : IsDigits whole) (hpart : IsDigits part)
    (hvalue : (natOfDigits (whole ++ part) : ℚ) * 10 ^ (-part.length : Int) = n * 10 ^ e) :
    IsNumeral (whole ++ '.' :: part) n e where
  leading := leading_of_isDigits hne hwhole _
  mark := .inl (by simp)
  read := ⟨_, _, hvalue, fun _ => decimal?_point hne hwhole hpart⟩

namespace IsNumeral

variable {ds : List Char}

/-- Zeros between the point and the digits. -/
theorem of_leadingZeros (hds : IsDigits ds) (k : Nat) :
    IsNumeral (['0'] ++ '.' :: (List.replicate k '0' ++ ds)) (natOfDigits ds)
      (-(k + ds.length : Nat)) := by
  refine of_point (by decide) (isDigits_replicate 1) ((isDigits_replicate k).append hds) ?_
  have hread : natOfDigits (['0'] ++ (List.replicate k '0' ++ ds)) = natOfDigits ds := by
    rw [← natOfDigits_zeros_append k ds]
    exact natOfDigits_zeros_append 1 _
  rw [hread, List.length_append, List.length_replicate]

/-- Zeros between the digits and the point. -/
theorem of_trailingZeros (hne : ds ≠ []) (hds : IsDigits ds) (k : Nat) :
    IsNumeral ((ds ++ List.replicate k '0') ++ '.' :: ['0']) (natOfDigits ds) k := by
  refine of_point (by simp [hne]) (hds.append (isDigits_replicate k)) (isDigits_replicate 1) ?_
  rw [List.append_assoc, ← List.replicate_succ', natOfDigits_append_zeros, List.length_singleton,
    zpow_natCast]
  push_cast
  rw [zpow_neg_one, pow_succ]
  ring

/-- The point among the digits. -/
theorem of_pointAt (hds : IsDigits ds) {k : Nat} (hk : 0 < k) (hlt : k < ds.length) :
    IsNumeral (ds.take k ++ '.' :: ds.drop k) (natOfDigits ds) (k - ds.length) := by
  have hne : ds.take k ≠ [] := by
    rw [ne_eq, List.take_eq_nil_iff]
    rintro (rfl | rfl)
    · exact hk.false
    · exact absurd hlt (Nat.not_lt_zero k)
  refine of_point hne (hds.sublist (List.take_sublist _ _))
    (hds.sublist (List.drop_sublist _ _)) ?_
  rw [List.take_append_drop, List.length_drop]
  congr 2
  omega

end IsNumeral

/-- Positional numerals of digits whose last one counts `10 ^ e`. -/
theorem isNumeral_positional (n : Nat) {e first : Int}
    (hfirst : first = e + ((Nat.toDigits 10 n).length - 1 : Nat)) :
    IsNumeral (NumeralLayout.positional (Nat.toDigits 10 n) first).toList n e := by
  have hdigits := isDigits_toDigits n
  have hvalue := natOfDigits_toDigits n
  have hlength : 0 < (Nat.toDigits 10 n).length := Nat.length_toDigits_pos
  generalize Nat.toDigits 10 n = ds at *
  rw [← hvalue]
  simp only [NumeralLayout.positional]
  split_ifs with hneg hwhole
  · have htext : ("0." ++ NumeralLayout.zeros (-first - 1).toNat ++ String.ofList ds).toList =
        ['0'] ++ '.' :: (List.replicate (-first - 1).toNat '0' ++ ds) := by
      simp [NumeralLayout.zeros]
    have he : e = -((-first - 1).toNat + ds.length : Nat) := by omega
    rw [htext, he]
    exact .of_leadingZeros hdigits _
  · set k := first.toNat + 1 - ds.length
    have htext : (String.ofList ds ++ NumeralLayout.zeros k ++ ".0").toList =
        (ds ++ List.replicate k '0') ++ '.' :: ['0'] := by
      simp [NumeralLayout.zeros]
    have he : e = k := by omega
    rw [htext, he]
    exact .of_trailingZeros (List.ne_nil_of_length_pos hlength) hdigits k
  · have htext : (String.ofList (ds.take (first.toNat + 1)) ++ "." ++
        String.ofList (ds.drop (first.toNat + 1))).toList =
          ds.take (first.toNat + 1) ++ '.' :: ds.drop (first.toNat + 1) := by
      simp
    have he : e = (first.toNat + 1 : Nat) - ds.length := by omega
    rw [htext, he]
    exact .of_pointAt hdigits (Nat.succ_pos _) (by omega)

/-- Numerals with an exponent, of digits whose last one counts `10 ^ e`. -/
theorem isNumeral_scientific (layout : NumeralLayout) (n : Nat) {e first : Int}
    (hfirst : first = e + ((Nat.toDigits 10 n).length - 1 : Nat)) :
    IsNumeral (layout.scientific (Nat.toDigits 10 n) first).toList n e := by
  have hdigits := isDigits_toDigits n
  have hvalue := natOfDigits_toDigits n
  have hlength : 0 < (Nat.toDigits 10 n).length := Nat.length_toDigits_pos
  have hexponent := exponent?_eq layout.plusSign first
  generalize Nat.toDigits 10 n = ds at *
  simp only [NumeralLayout.scientific]
  generalize (if first < 0 then "-" else if layout.plusSign then "+" else "") = sign at *
  match ds with
  | [] => exact absurd hlength (by decide)
  | [d] =>
    have htext : (String.ofList [d] ++ "e" ++ sign ++ toString first.natAbs).toList =
        [d] ++ 'e' :: (sign.toList ++ (toString first.natAbs).toList) := by
      simp
    rw [htext]
    obtain rfl : first = e := by simpa using hfirst
    exact {
      leading := leading_of_isDigits (by simp) hdigits _
      mark := .inr (by simp)
      read := ⟨n, first, rfl, fun negative => by
        rw [decimal?_exponent (by simp) hdigits, hexponent, Option.bind_some, hvalue]⟩ }
  | d :: c :: rest =>
    have htext : (String.ofList [d, '.'] ++ String.ofList (c :: rest) ++ "e" ++ sign ++
        toString first.natAbs).toList = [d] ++ '.' :: ((c :: rest) ++ 'e' ::
          (sign.toList ++ (toString first.natAbs).toList)) := by
      simp
    have hwhole : IsDigits [d] := hdigits.sublist (List.sublist_append_left [d] (c :: rest))
    have hpart : IsDigits (c :: rest) := hdigits.sublist (List.sublist_cons_self _ _)
    have he : first - (c :: rest).length = e := by
      simp only [List.length_cons] at hfirst ⊢
      omega
    rw [htext]
    exact {
      leading := leading_of_isDigits (by simp) hwhole _
      mark := .inl (by simp)
      read := ⟨n, e, rfl, fun negative => by
        rw [decimal?_point_exponent (by simp) hwhole hpart, hexponent, Option.bind_some,
          List.singleton_append, hvalue, he]⟩ }

-- ════════════════════════════════════════════════════════════════════════
-- Numbers
-- ════════════════════════════════════════════════════════════════════════

def signText (negative : Bool) : String :=
  if negative then "-" else ""

/-- A number is written as its sign and a numeral that is read as the number. -/
theorem exists_render_eq (layout : NumeralLayout) (x : Binary64) :
    ∃ numeral : String, layout.render x = signText x.negative ++ numeral ∧
      (∃ n e, IsNumeral numeral.toList n e) ∧ decimal? x.negative numeral.toList = some x := by
  by_cases hx : x.isZero = true
  · obtain ⟨negative, significand, exponent, hlt, hrange, hcanonical⟩ := x
    obtain rfl : significand = 0 := by simpa [Binary64.isZero] using hx
    obtain rfl : exponent = -1074 := hcanonical.resolve_right (by decide)
    have hzero : IsDigits ['0'] := isDigits_replicate 1
    have htext : "0.0".toList = ['0'] ++ '.' :: ['0'] := by decide
    refine ⟨"0.0", ?_, ?_⟩
    · rw [NumeralLayout.render, if_pos hx]
      rfl
    rw [htext]
    refine ⟨⟨0, 0, .of_point (by decide) hzero hzero ?_⟩, ?_⟩
    · rw [show natOfDigits (['0'] ++ ['0']) = 0 from rfl, Nat.cast_zero, zero_mul, zero_mul]
    · exact (decimal?_point (by decide) hzero hzero).trans rfl
  · have hx : x.isZero = false := (Bool.not_eq_true _).mp hx
    have hnumeral : ∀ numeral : String, IsNumeral numeral.toList x.shortest.1 x.shortest.2 →
        (∃ n e, IsNumeral numeral.toList n e) ∧ decimal? x.negative numeral.toList = some x := by
      intro numeral h
      obtain ⟨digits, exponent, hvalue, hread⟩ := h.read
      exact ⟨⟨_, _, h⟩, (hread _).trans (Binary64.ofDecimal?_eq_of_shortest hx hvalue)⟩
    refine ⟨_, if_neg (by simp [hx]), hnumeral _ ?_⟩
    split_ifs
    · exact isNumeral_positional _ rfl
    · exact isNumeral_scientific _ _ rfl

/-- A text with a digit is none of some words without digits. -/
theorem contains_words_eq_false {words : List String} {cs : List Char} {d : Char} (hd : d ∈ cs)
    (hdigit : isAsciiDigit d = true)
    (hwords : ∀ w ∈ words, w.toList.any isAsciiDigit = false) :
    words.contains (String.ofList cs) = false := by
  rw [Bool.eq_false_iff]
  intro hmem
  have hany := hwords _ (List.contains_iff_mem.1 hmem)
  rw [String.toList_ofList, List.any_eq_false] at hany
  exact hany d hd hdigit

/-- A numeral behind its sign is read as a decimal numeral. -/
theorem fraction?_sign_append (negative : Bool) {numeral : List Char}
    (h : ∃ c ∈ numeral.head?, isAsciiDigit c = true) :
    fraction? ((signText negative).toList ++ numeral) =
      (decimal? negative numeral).map .float := by
  obtain ⟨d, hd, hdigit⟩ := h
  obtain ⟨rest, rfl⟩ : ∃ rest, numeral = d :: rest := by
    cases numeral with
    | nil => cases hd
    | cons c rest => exact ⟨rest, by rw [Option.some.inj hd]⟩
  have hmem : d ∈ (signText negative).toList ++ d :: rest := by simp
  have hwords : ∀ words : List String, (∀ w ∈ words, w.toList.any isAsciiDigit = false) →
      ¬ words.contains (String.ofList ((signText negative).toList ++ d :: rest)) = true := by
    intro words hw
    rw [contains_words_eq_false hmem hdigit hw]
    decide
  simp only [fraction?]
  rw [if_neg, if_neg, if_neg]
  · cases negative with
    | true => simp [signText]
    | false =>
      have hminus : d ≠ '-' := by
        rintro rfl
        exact absurd hdigit (by decide)
      have hplus : d ≠ '+' := by
        rintro rfl
        exact absurd hdigit (by decide)
      simp [signText, hminus, hplus]
  all_goals exact hwords _ (by decide)

/-- **Numbers are read back.** The text of a fraction, an infinity or not-a-number is read as this
    number. -/
theorem fraction?_text {m : Number} (h : ∀ i, m ≠ .int i) : fraction? m.text.toList = some m := by
  cases m with
  | int i => exact absurd rfl (h i)
  | float x =>
    obtain ⟨numeral, htext, ⟨n, e, hnumeral⟩, hread⟩ := exists_render_eq numeralLayout x
    rw [Number.text, htext, String.toList_append, fraction?_sign_append _ hnumeral.leading, hread]
    rfl
  | infinity negative =>
    cases negative
    · decide
    · decide
  | notANumber => decide

/-- The text of an integer has digits and a sign only. -/
theorem Number.digit_of_mem_text_int {i : Int} {c : Char} (hc : c ∈ (Number.int i).text.toList) :
    c = '-' ∨ isAsciiDigit c = true := by
  cases i with
  | ofNat n => exact .inr (Dot.Id.isAsciiDigit_of_mem_toString hc)
  | negSucc n =>
    have htext : (Number.int (.negSucc n)).text = "-" ++ toString (n + 1) := rfl
    rw [htext, String.toList_append] at hc
    obtain hc | hc := List.mem_append.1 hc
    · exact .inl (by simpa using hc)
    · exact .inr (Dot.Id.isAsciiDigit_of_mem_toString hc)

theorem Number.text_int_injective {i j : Int} (h : (Number.int i).text = (Number.int j).text) :
    i = j := by
  have hmixed : ∀ m n : Nat, toString m ≠ "-" ++ toString n := by
    intro m n heq
    have hsign : '-' ∈ (toString m).toList := by
      rw [heq]
      simp
    exact absurd (Dot.Id.isAsciiDigit_of_mem_toString hsign) (by decide)
  cases i with
  | ofNat m =>
    cases j with
    | ofNat n => exact congrArg Int.ofNat (Dot.Id.toString_injective h)
    | negSucc n => exact absurd h (hmixed m (n + 1))
  | negSucc m =>
    cases j with
    | ofNat n => exact absurd h.symm (hmixed n (m + 1))
    | negSucc n =>
      have hsucc := Dot.Id.toString_injective (String.append_right_inj "-" |>.1 h)
      exact congrArg Int.negSucc (Nat.succ.inj hsucc)

/-- The text of a number that is not an integer has more than digits and a sign. -/
theorem Number.exists_mem_text {m : Number} (h : ∀ i, m ≠ .int i) :
    ∃ c ∈ m.text.toList, ¬ (c = '-' ∨ isAsciiDigit c = true) := by
  cases m with
  | int i => exact absurd rfl (h i)
  | float x =>
    obtain ⟨numeral, htext, ⟨n, e, hnumeral⟩, -⟩ := exists_render_eq numeralLayout x
    rw [Number.text, htext, String.toList_append]
    obtain hmark | hmark := hnumeral.mark
    · exact ⟨'.', List.mem_append_right _ hmark, by decide⟩
    · exact ⟨'e', List.mem_append_right _ hmark, by decide⟩
  | infinity negative => exact ⟨'i', by cases negative <;> decide, by decide⟩
  | notANumber => exact ⟨'n', by decide, by decide⟩

/-- The text of a number is no word that cannot be read as a number. -/
theorem Number.text_ne_word (m : Number) {word : String}
    (hletter : (word.toList.any fun c => c != '-' && !isAsciiDigit c) = true)
    (hread : fraction? word.toList = none) : m.text ≠ word := by
  rintro rfl
  by_cases hm : ∃ i, m = .int i
  · obtain ⟨i, rfl⟩ := hm
    obtain ⟨c, hc, hother⟩ := List.any_eq_true.1 hletter
    obtain rfl | hdigit := Number.digit_of_mem_text_int hc
    · exact absurd hother (by decide)
    · simp [hdigit] at hother
  · rw [fraction?_text fun i hi => hm ⟨i, hi⟩] at hread
    cases hread

/-- **Different numbers have different texts.** -/
theorem Number.text_injective : Function.Injective Number.text := by
  have hmixed : ∀ (i : Int) (m : Number), (∀ j, m ≠ .int j) → (Number.int i).text ≠ m.text := by
    intro i m hm heq
    obtain ⟨c, hc, hother⟩ := Number.exists_mem_text hm
    exact hother (Number.digit_of_mem_text_int (heq ▸ hc))
  intro m n h
  by_cases hm : ∃ i, m = .int i
  · obtain ⟨i, rfl⟩ := hm
    by_cases hn : ∃ j, n = .int j
    · obtain ⟨j, rfl⟩ := hn
      exact congrArg Number.int (Number.text_int_injective h)
    · exact absurd h (hmixed i n fun j hj => hn ⟨j, hj⟩)
  · have hm : ∀ i, m ≠ .int i := fun i hi => hm ⟨i, hi⟩
    by_cases hn : ∃ j, n = .int j
    · obtain ⟨j, rfl⟩ := hn
      exact absurd h.symm (hmixed j m hm)
    · have hn : ∀ j, n ≠ .int j := fun j hj => hn ⟨j, hj⟩
      exact Option.some.inj ((fraction?_text hm).symm.trans (h ▸ fraction?_text hn))

end Yaml

end InfraDiagram

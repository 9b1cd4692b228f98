import InfraDiagram.Number.Shortest
import Mathlib.Algebra.Order.Field.Power
import Mathlib.Data.Rat.Floor
import Mathlib.Tactic.FieldSimp
import Mathlib.Tactic.Linarith
import Mathlib.Tactic.Positivity
import Mathlib.Tactic.Ring

/-!
# Correct rounding

Every binary number stands for an interval of rationals, its reach. A fraction in the reach of a
number is rounded to this number, and so is a decimal form whose value lies there.

## Main definitions

- `Binary64.Reaches` — a rational lies in the reach of a number

## Main statements

- `Binary64.contains_reach_iff` — the scaled comparison decides the reach
- `Binary64.round?_eq_some` — a fraction in the reach is rounded to the number
- `Binary64.ofDecimal?_eq_some` — a decimal form in the reach is read as the number
-/

namespace InfraDiagram.Binary64

-- ════════════════════════════════════════════════════════════════════════
-- Fractions scaled by powers of two
-- ════════════════════════════════════════════════════════════════════════

theorem divPow2_pos (num : Nat) {den : Nat} (hden : 0 < den) (e : Int) :
    0 < (divPow2 num den e).2 := by
  unfold divPow2
  split_ifs
  · rw [Nat.shiftLeft_eq]
    positivity
  · exact hden

theorem divPow2_div (num den : Nat) (e : Int) :
    ((divPow2 num den e).1 : ℚ) / (divPow2 num den e).2 = num / den / 2 ^ e := by
  unfold divPow2
  split_ifs with he
  · rw [Nat.shiftLeft_eq]
    push_cast
    rw [← zpow_natCast, Int.toNat_of_nonneg he, div_div]
  · have hneg : (0 : Int) ≤ -e := by omega
    rw [Nat.shiftLeft_eq]
    push_cast
    rw [← zpow_natCast, Int.toNat_of_nonneg hneg, zpow_neg]
    ring

/-- The quotient of a scaled fraction has reached a natural number exactly if the fraction has. -/
theorem divPow2_quotient_lt_iff (num : Nat) {den : Nat} (hden : 0 < den) (e : Int) (k : Nat) :
    (divPow2 num den e).1 / (divPow2 num den e).2 < k ↔ (num : ℚ) / den < k * 2 ^ e := by
  have hpos : (0 : ℚ) < (divPow2 num den e).2 := Nat.cast_pos.2 (divPow2_pos num hden e)
  rw [Nat.div_lt_iff_lt_mul (divPow2_pos num hden e), ← Nat.cast_lt (α := ℚ), Nat.cast_mul,
    ← div_lt_iff₀ hpos, divPow2_div, div_lt_iff₀ (by positivity)]

theorem two_zpow_add (e : Int) (k : Nat) : (2 : ℚ) ^ (e + k) = 2 ^ k * 2 ^ e := by
  rw [zpow_add₀ two_ne_zero, zpow_natCast, mul_comm]

-- ════════════════════════════════════════════════════════════════════════
-- Reaches
-- ════════════════════════════════════════════════════════════════════════

/-- The lower end of the reach, for numbers that are not zero. -/
def lower (x : Binary64) : ℚ :=
  (x.significand - if x.significand = 1 <<< 52 ∧ -1074 < x.exponent then 1 / 4 else 1 / 2) *
    2 ^ x.exponent

def upper (x : Binary64) : ℚ :=
  (x.significand + 1 / 2) * 2 ^ x.exponent

/-- A rational rounds to the absolute value of a number: it lies between the ends, or on one of
    them if the significand is even. -/
def Reaches (x : Binary64) (r : ℚ) : Prop :=
  (x.lower < r ∧ r < x.upper) ∨ (x.significand % 2 = 0 ∧ x.lower ≤ r ∧ r ≤ x.upper)

variable {x : Binary64}

theorem significand_pos (hx : x.isZero = false) : 0 < x.significand := by
  rw [isZero, beq_eq_false_iff_ne] at hx
  omega

theorem Reaches.lower_le {r : ℚ} (h : x.Reaches r) : x.lower ≤ r :=
  h.elim (fun h => h.1.le) fun h => h.2.1

theorem Reaches.le_upper {r : ℚ} (h : x.Reaches r) : r ≤ x.upper :=
  h.elim (fun h => h.2.le) fun h => h.2.2

/-- A number reaches down by half a step, or less at the beginning of a binade. -/
theorem half_step_le_lower (x : Binary64) :
    (x.significand - 1 / 2) * 2 ^ x.exponent ≤ x.lower := by
  unfold lower
  gcongr
  split_ifs <;> norm_num

/-- The least number that is not zero reaches down to half of itself, and the other ones not even
    as far. -/
theorem two_zpow_le_lower (hx : x.isZero = false) : (2 : ℚ) ^ (-1075 : Int) ≤ x.lower := by
  have hpos : (1 : ℚ) ≤ x.significand := by exact_mod_cast significand_pos hx
  have hunit : (2 : ℚ) ^ (-1074 : Int) ≤ 2 ^ x.exponent :=
    zpow_le_zpow_right₀ one_le_two x.exponent_range.1
  calc (2 : ℚ) ^ (-1075 : Int) = 1 / 2 * 2 ^ (-1074 : Int) := by
        rw [show (-1075 : Int) = -1074 - 1 by norm_num, zpow_sub_one₀ two_ne_zero]
        ring
    _ ≤ (x.significand - 1 / 2) * 2 ^ x.exponent :=
        mul_le_mul (by linarith) hunit (by positivity) (by linarith)
    _ ≤ x.lower := half_step_le_lower x

theorem lower_pos (hx : x.isZero = false) : 0 < x.lower :=
  lt_of_lt_of_le (by positivity) (two_zpow_le_lower hx)

/-- The reach of a number ends within its binade. -/
theorem upper_lt (x : Binary64) : x.upper < 2 ^ (x.exponent + 53) := by
  have hbits : (x.significand : ℚ) + 1 ≤ 2 ^ 53 := by exact_mod_cast x.significand_lt
  calc x.upper < 2 ^ 53 * 2 ^ x.exponent := by
        rw [upper]
        gcongr
        linarith
    _ = 2 ^ (x.exponent + 53) := (two_zpow_add x.exponent 53).symm

/-- The ends of the reach are ends of the scaled interval. -/
theorem reach_ends (hx : x.isZero = false) :
    0 < x.reach.unit ∧ (x.reach.low : ℚ) / x.reach.unit = x.lower ∧
      (x.reach.high : ℚ) / x.reach.unit = x.upper ∧
      (x.reach.value : ℚ) / x.reach.unit = x.significand * 2 ^ x.exponent := by
  have hpos := significand_pos hx
  have hunit := divPow2_pos 1 (by decide : 0 < 4) (-x.exponent)
  have hscale := divPow2_div 1 4 (-x.exponent)
  simp only [reach, lower, upper]
  generalize divPow2 1 4 (-x.exponent) = p at *
  obtain ⟨scale, unit⟩ := p
  simp only at hunit hscale ⊢
  rw [zpow_neg, div_inv_eq_mul] at hscale
  have hquarter : ∀ k : Nat, ((k * scale : Nat) : ℚ) / unit = k / 4 * 2 ^ x.exponent := by
    intro k
    rw [Nat.cast_mul, mul_div_assoc, hscale]
    push_cast
    ring
  refine ⟨hunit, ?_, ?_, ?_⟩
  · rw [hquarter]
    congr 1
    split_ifs
    · rw [Nat.cast_sub (by omega)]
      push_cast
      ring
    · rw [Nat.cast_sub (by omega)]
      push_cast
      ring
  · rw [hquarter]
    push_cast
    ring
  · rw [hquarter]
    push_cast
    ring

theorem contains_reach_iff (hx : x.isZero = false) {num den : Nat} (hden : 0 < den) :
    x.reach.contains num den = true ↔ x.Reaches (num / den) := by
  obtain ⟨hunit, hlow, hhigh, -⟩ := reach_ends hx
  have hunit' : (0 : ℚ) < x.reach.unit := Nat.cast_pos.2 hunit
  have hden' : (0 : ℚ) < den := Nat.cast_pos.2 hden
  have hle : ∀ a b c d : Nat, a * d ≤ c * b ↔ (a : ℚ) * d ≤ c * b := by
    intro a b c d
    exact_mod_cast Iff.rfl
  have hlt : ∀ a b c d : Nat, a * d < c * b ↔ (a : ℚ) * d < c * b := by
    intro a b c d
    exact_mod_cast Iff.rfl
  have hclosed : x.reach.closed = decide (x.significand % 2 = 0) := rfl
  rw [Reaches, ← hlow, ← hhigh, div_lt_div_iff₀ hunit' hden', div_lt_div_iff₀ hden' hunit',
    div_le_div_iff₀ hunit' hden', div_le_div_iff₀ hden' hunit', ← hlt, ← hlt, ← hle, ← hle,
    Reach.contains, hclosed]
  by_cases heven : x.significand % 2 = 0
  · simp only [heven, decide_true, if_true, Bool.and_eq_true, decide_eq_true_eq, true_and]
    omega
  · simp [heven]

-- ════════════════════════════════════════════════════════════════════════
-- Rounding of fractions
-- ════════════════════════════════════════════════════════════════════════

/-- A quotient within half of a natural number is rounded to it; at a distance of exactly one half
    the natural number has to be even. -/
theorem divNearest_eq_of_twice {n d m : Nat} (hd : 0 < d) (hlow : 2 * (m * d) ≤ 2 * n + d)
    (hhigh : 2 * n ≤ 2 * (m * d) + d)
    (hodd : m % 2 = 1 → 2 * (m * d) < 2 * n + d ∧ 2 * n < 2 * (m * d) + d) :
    divNearest n d = m := by
  have hsplit := Nat.div_add_mod' n d
  have hrest := Nat.mod_lt n hd
  simp only [divNearest]
  generalize n / d = q at *
  generalize n % d = t at *
  have hcase : m = q ∨ m = q + 1 := by
    by_contra hne
    obtain hfar | hfar : m + 1 ≤ q ∨ q + 2 ≤ m := by omega
    · have := Nat.mul_le_mul_right d hfar
      rw [Nat.add_mul] at this
      omega
    · have := Nat.mul_le_mul_right d hfar
      rw [Nat.add_mul] at this
      omega
  obtain rfl | rfl := hcase
  · rw [if_neg]
    rintro (h | ⟨h, hpar⟩)
    · omega
    · have := (hodd hpar).2
      omega
  · rw [Nat.add_mul, Nat.one_mul] at hlow hodd
    rw [if_pos]
    by_cases hpar : (q + 1) % 2 = 1
    · have := (hodd hpar).1
      omega
    · omega

theorem divNearest_eq {n d m : Nat} (hd : 0 < d) (hlow : (m : ℚ) - 1 / 2 ≤ n / d)
    (hhigh : (n : ℚ) / d ≤ m + 1 / 2)
    (hodd : m % 2 = 1 → (m : ℚ) - 1 / 2 < n / d ∧ (n : ℚ) / d < m + 1 / 2) :
    divNearest n d = m := by
  have hd' : (0 : ℚ) < d := Nat.cast_pos.2 hd
  rw [le_div_iff₀ hd'] at hlow
  rw [div_le_iff₀ hd'] at hhigh
  rw [lt_div_iff₀ hd', div_lt_iff₀ hd'] at hodd
  refine divNearest_eq_of_twice hd ?_ ?_ fun hpar => ?_
  · exact_mod_cast (by linarith : (2 : ℚ) * (m * d) ≤ 2 * n + d)
  · exact_mod_cast (by linarith : (2 : ℚ) * n ≤ 2 * (m * d) + d)
  · obtain ⟨hlow, hhigh⟩ := hodd hpar
    constructor
    · exact_mod_cast (by linarith : (2 : ℚ) * (m * d) < 2 * n + d)
    · exact_mod_cast (by linarith : (2 : ℚ) * n < 2 * (m * d) + d)

/-- A fraction is as great as the lengths of its parts say, up to a factor of two. -/
theorem two_zpow_log2_lt {num den : Nat} (hnum : 0 < num) (hden : 0 < den) :
    (2 : ℚ) ^ ((Nat.log2 num : Int) - Nat.log2 den - 1) < num / den ∧
      (num : ℚ) / den < 2 ^ ((Nat.log2 num : Int) - Nat.log2 den + 1) := by
  have hden' : (0 : ℚ) < den := Nat.cast_pos.2 hden
  have hnumLow : (2 : ℚ) ^ (Nat.log2 num : Int) ≤ num := by
    exact_mod_cast Nat.log2_self_le hnum.ne'
  have hnumHigh : (num : ℚ) < 2 ^ ((Nat.log2 num : Int) + 1) := by
    exact_mod_cast Nat.lt_log2_self (n := num)
  have hdenLow : (2 : ℚ) ^ (Nat.log2 den : Int) ≤ den := by
    exact_mod_cast Nat.log2_self_le hden.ne'
  have hdenHigh : (den : ℚ) < 2 ^ ((Nat.log2 den : Int) + 1) := by
    exact_mod_cast Nat.lt_log2_self (n := den)
  generalize (Nat.log2 num : Int) = a at *
  generalize (Nat.log2 den : Int) = b at *
  constructor
  · rw [lt_div_iff₀ hden']
    calc (2 : ℚ) ^ (a - b - 1) * den < 2 ^ (a - b - 1) * 2 ^ (b + 1) := by gcongr
      _ = 2 ^ a := by rw [← zpow_add₀ two_ne_zero]; congr 1; ring
      _ ≤ num := hnumLow
  · rw [div_lt_iff₀ hden']
    calc (num : ℚ) < 2 ^ (a + 1) := hnumHigh
      _ = 2 ^ (a - b + 1) * 2 ^ b := by rw [← zpow_add₀ two_ne_zero]; congr 1; ring
      _ ≤ 2 ^ (a - b + 1) * den := by gcongr

/-- The binade of a fraction holds it, from its beginning on if it is not the lowest. -/
theorem binade_spec {num den : Nat} (hnum : 0 < num) (hden : 0 < den) :
    -1074 ≤ binade num den ∧ (num : ℚ) / den < 2 ^ (binade num den + 53) ∧
      (binade num den = -1074 ∨ 2 ^ (binade num den + 52) ≤ (num : ℚ) / den) := by
  obtain ⟨hlow, hhigh⟩ := two_zpow_log2_lt hnum hden
  have hquotient := divPow2_quotient_lt_iff num hden
    ((Nat.log2 num : Int) - Nat.log2 den - 52) (1 <<< 52)
  have hpower : ((1 <<< 52 : Nat) : ℚ) = 2 ^ (52 : Int) := by
    rw [Nat.one_shiftLeft]
    norm_num
  rw [hpower, ← zpow_add₀ two_ne_zero] at hquotient
  simp only [binade]
  generalize hguess : (Nat.log2 num : Int) - Nat.log2 den - 52 = guess at *
  generalize (divPow2 num den guess) = parts at *
  -- the guess or the exponent below it, before the least exponent sets in
  obtain ⟨e, he, hless, hmore⟩ : ∃ e,
      (if parts.1 / parts.2 < 1 <<< 52 then guess - 1 else guess) = e ∧
      (num : ℚ) / den < 2 ^ (e + 53) ∧ 2 ^ (e + 52) ≤ (num : ℚ) / den := by
    by_cases hsmall : parts.1 / parts.2 < 1 <<< 52
    · refine ⟨guess - 1, if_pos hsmall, ?_, ?_⟩
      · rw [show guess - 1 + 53 = 52 + guess by ring]
        exact hquotient.1 hsmall
      · refine le_of_eq_of_le ?_ hlow.le
        congr 1
        omega
    · refine ⟨guess, if_neg hsmall, lt_of_lt_of_eq hhigh ?_, ?_⟩
      · congr 1
        omega
      · rw [add_comm]
        exact not_lt.1 (mt hquotient.2 hsmall)
  rw [he]
  refine ⟨le_max_right _ _, hless.trans_le ?_, ?_⟩
  · exact zpow_le_zpow_right₀ one_le_two (by omega)
  · obtain hmax | hmax := le_total e (-1074)
    · exact .inl (max_eq_right hmax)
    · rw [max_eq_left hmax]
      exact .inr hmore

/-- A number is put together from its parts. -/
theorem ofParts?_self (x : Binary64) :
    ofParts? x.negative x.significand x.exponent = some x :=
  dif_pos ⟨x.significand_lt, x.exponent_range, x.canonical⟩

/-- What rounds to a number is in the binade of the number, or just below the beginning of it. -/
theorem exponent_of_reaches {num den : Nat} (hnum : 0 < num)
    (hden : 0 < den) (h : x.Reaches (num / den)) :
    binade num den = x.exponent ∨ (binade num den + 1 = x.exponent ∧ -1074 < x.exponent ∧
      x.significand = 1 <<< 52 ∧ (num : ℚ) / den < 2 ^ (binade num den + 53)) := by
  obtain ⟨hleast, hless, hmore⟩ := binade_spec hnum hden
  generalize binade num den = e at *
  have hle : e ≤ x.exponent := by
    by_contra hgt
    have hmore := hmore.resolve_left (by have := x.exponent_range; omega)
    have hwithin : (2 : ℚ) ^ (e + 52) < 2 ^ (x.exponent + 53) :=
      (hmore.trans h.le_upper).trans_lt (upper_lt x)
    rw [zpow_lt_zpow_iff_right₀ one_lt_two] at hwithin
    omega
  obtain heq | hlt := hle.eq_or_lt
  · exact .inl heq
  have hcanonical : 1 <<< 52 ≤ x.significand := x.canonical.resolve_left (by omega)
  have hbits : (2 : ℚ) ^ 52 ≤ x.significand := by exact_mod_cast hcanonical
  have hunit : (0 : ℚ) < 2 ^ x.exponent := by positivity
  -- a number further up in its binade reaches only down to the beginning
  have hfirst : x.significand = 1 <<< 52 := by
    by_contra hne
    have hbits : (2 : ℚ) ^ 52 + 1 ≤ x.significand := by
      exact_mod_cast (show 2 ^ 52 + 1 ≤ x.significand by omega)
    have hbelow : (num : ℚ) / den < 2 ^ 52 * 2 ^ x.exponent := by
      rw [← two_zpow_add x.exponent 52]
      exact hless.trans_le (zpow_le_zpow_right₀ one_le_two (by omega))
    have hlower : x.lower = (x.significand - 1 / 2) * 2 ^ x.exponent := by
      rw [lower, if_neg fun h => hne h.1]
    have := h.lower_le
    nlinarith
  have hlow : (2 : ℚ) ^ (x.exponent + (51 : Nat)) < 2 ^ (e + 53) := by
    refine lt_of_le_of_lt ?_ (h.lower_le.trans_lt hless)
    rw [two_zpow_add, lower]
    gcongr
    split_ifs <;> linarith
  rw [zpow_lt_zpow_iff_right₀ one_lt_two] at hlow
  exact .inr ⟨by omega, by omega, hfirst, hless⟩

/-- In the binade of a number, what it reaches is rounded to its significand. -/
theorem divNearest_of_reaches {num den : Nat} (hden : 0 < den) (h : x.Reaches (num / den)) :
    divNearest (divPow2 num den x.exponent).1 (divPow2 num den x.exponent).2 = x.significand := by
  have hunit : (0 : ℚ) < 2 ^ x.exponent := by positivity
  have hle := half_step_le_lower x
  refine divNearest_eq (divPow2_pos num hden _) ?_ ?_ fun hodd => ?_
  · rw [divPow2_div, le_div_iff₀ hunit]
    exact hle.trans h.lower_le
  · rw [divPow2_div, div_le_iff₀ hunit]
    exact h.le_upper
  · rw [divPow2_div, lt_div_iff₀ hunit, div_lt_iff₀ hunit]
    obtain ⟨hlow, hhigh⟩ := h.resolve_right fun heven => by omega
    exact ⟨hle.trans_lt hlow, hhigh⟩

/-- Just below the beginning of a binade, what the first number of it reaches is rounded up to the
    beginning. -/
theorem divNearest_below_binade {num den : Nat} (hden : 0 < den) {e : Int}
    (hbelow : e + 1 = x.exponent) (hleast : -1074 < x.exponent)
    (hfirst : x.significand = 1 <<< 52) (hless : (num : ℚ) / den < 2 ^ (e + 53))
    (h : x.Reaches (num / den)) :
    divNearest (divPow2 num den e).1 (divPow2 num den e).2 = 1 <<< 53 := by
  have hunit : (0 : ℚ) < 2 ^ e := by positivity
  have hpower : ((1 <<< 53 : Nat) : ℚ) = 2 ^ 53 := by
    rw [Nat.one_shiftLeft]
    norm_num
  have hlower : x.lower = (2 ^ 53 - 1 / 2) * 2 ^ e := by
    have hbits : (x.significand : ℚ) = 2 ^ 52 := by
      rw [hfirst, Nat.one_shiftLeft]
      norm_num
    rw [lower, if_pos ⟨hfirst, hleast⟩, hbits, ← hbelow, zpow_add_one₀ two_ne_zero]
    ring
  refine divNearest_eq (divPow2_pos num hden e) ?_ ?_ fun hodd => absurd hodd (by decide)
  · rw [divPow2_div, hpower, le_div_iff₀ hunit, ← hlower]
    exact h.lower_le
  · rw [divPow2_div, hpower, div_le_iff₀ hunit]
    have hend : (num : ℚ) / den < 2 ^ 53 * 2 ^ e := hless.trans_eq (two_zpow_add e 53)
    linarith

/-- **Fractions are rounded correctly.** A fraction in the reach of a number is rounded to it. -/
theorem round?_eq_some (hx : x.isZero = false) {num den : Nat} (hden : 0 < den)
    (h : x.Reaches (num / den)) : round? x.negative num den = some x := by
  have hnum : 0 < num := by
    by_contra hzero
    have hpos := (lower_pos hx).trans_le h.lower_le
    simp [Nat.eq_zero_of_not_pos hzero] at hpos
  simp only [round?, if_neg hnum.ne']
  obtain hexponent | ⟨hbelow, hleast, hfirst, hless⟩ := exponent_of_reaches hnum hden h
  · rw [hexponent, divNearest_of_reaches hden h, if_neg x.significand_lt.ne]
    exact ofParts?_self x
  · rw [divNearest_below_binade hden hbelow hleast hfirst hless h, if_pos rfl, ← hfirst, hbelow]
    exact ofParts?_self x

-- ════════════════════════════════════════════════════════════════════════
-- Decimal forms
-- ════════════════════════════════════════════════════════════════════════

theorem pow10Fraction_pos (n : Nat) (e : Int) : 0 < (pow10Fraction n e).2 := by
  unfold pow10Fraction
  split_ifs
  · exact one_pos
  · exact Nat.pow_pos (by decide)

theorem pow10Fraction_div (n : Nat) (e : Int) :
    ((pow10Fraction n e).1 : ℚ) / (pow10Fraction n e).2 = n * 10 ^ e := by
  unfold pow10Fraction
  split_ifs with he
  · rw [Nat.pow_eq]
    push_cast
    rw [← zpow_natCast, Int.toNat_of_nonneg he, div_one]
  · rw [Nat.pow_eq]
    push_cast
    rw [← zpow_natCast, Int.toNat_of_nonneg (by omega), zpow_neg, div_inv_eq_mul]

theorem pow10Fraction_one_div (e : Int) :
    ((pow10Fraction 1 e).1 : ℚ) / (pow10Fraction 1 e).2 = 10 ^ e := by
  rw [pow10Fraction_div, Nat.cast_one, one_mul]

/-- Numbers are far from the magnitudes that are answered without computing. -/
theorem magnitude_of_reaches (hx : x.isZero = false) {r : ℚ} (h : x.Reaches r) {k : Int}
    (hlow : 10 ^ (k - 1) ≤ r) (hhigh : r < 10 ^ k) : -330 ≤ k ∧ k ≤ 310 := by
  constructor
  · by_contra hk
    have hcross : (10 : ℚ) ^ (-331 : Int) < 2 ^ (-1075 : Int) := by
      rw [zpow_neg, zpow_neg, inv_lt_inv₀ (by positivity) (by positivity)]
      exact_mod_cast (by decide +kernel : 2 ^ 1075 < 10 ^ 331)
    refine lt_irrefl r ?_
    calc r < 10 ^ k := hhigh
      _ ≤ 10 ^ (-331 : Int) := zpow_le_zpow_right₀ (by norm_num) (by omega)
      _ < 2 ^ (-1075 : Int) := hcross
      _ ≤ x.lower := two_zpow_le_lower hx
      _ ≤ r := h.lower_le
  · by_contra hk
    have hcross : (2 : ℚ) ^ (1024 : Int) < 10 ^ (310 : Int) := by
      exact_mod_cast (by decide +kernel : 2 ^ 1024 < 10 ^ 310)
    have hrange := x.exponent_range.2
    refine lt_irrefl r ?_
    calc r ≤ x.upper := h.le_upper
      _ < 2 ^ (x.exponent + 53) := upper_lt x
      _ ≤ 2 ^ (1024 : Int) := zpow_le_zpow_right₀ one_le_two (by omega)
      _ < 10 ^ (310 : Int) := hcross
      _ ≤ 10 ^ (k - 1) := zpow_le_zpow_right₀ (by norm_num) (by omega)
      _ ≤ r := hlow

/-- A natural number is as great as the count of its digits says. -/
theorem pow_length_toDigits {n : Nat} (hn : 0 < n) :
    10 ^ ((Nat.toDigits 10 n).length - 1) ≤ n ∧ n < 10 ^ (Nat.toDigits 10 n).length := by
  have hlength : 0 < (Nat.toDigits 10 n).length := Nat.length_toDigits_pos
  refine ⟨?_, (Nat.length_toDigits_le_iff (by decide) hlength).1 le_rfl⟩
  obtain hone | hone := Nat.eq_or_lt_of_le hlength
  · rw [← hone]
    exact hn
  · by_contra hlt
    have := (Nat.length_toDigits_le_iff (by decide) (by omega)).2 (not_le.1 hlt)
    omega

/-- **Decimal forms are read correctly.** Digits with an exponent whose value lies in the reach of
    a number are read as this number. -/
theorem ofDecimal?_eq_some (hx : x.isZero = false) {digits : Nat} {exponent : Int}
    (h : x.Reaches (digits * 10 ^ exponent)) :
    ofDecimal? x.negative digits exponent = some x := by
  have hdigits : 0 < digits := by
    by_contra hzero
    have hpos := (lower_pos hx).trans_le h.lower_le
    simp [Nat.eq_zero_of_not_pos hzero] at hpos
  obtain ⟨hlow, hhigh⟩ := pow_length_toDigits hdigits
  have hlength : 0 < (Nat.toDigits 10 digits).length := Nat.length_toDigits_pos
  have hrange := magnitude_of_reaches hx h (k := (Nat.toDigits 10 digits).length + exponent)
    (by
      rw [add_sub_right_comm, zpow_add₀ (by norm_num)]
      gcongr
      rw [← Nat.cast_pred hlength, zpow_natCast]
      exact_mod_cast hlow)
    (by
      rw [zpow_add₀ (by norm_num), zpow_natCast]
      gcongr
      exact_mod_cast hhigh)
  simp only [ofDecimal?, if_neg hdigits.ne', if_neg (not_lt.2 hrange.2),
    if_neg (not_lt.2 hrange.1)]
  have hfraction : (if 0 ≤ exponent then
      round? x.negative (digits * Nat.pow 10 exponent.toNat) 1
      else round? x.negative digits (Nat.pow 10 (-exponent).toNat)) =
      round? x.negative (pow10Fraction digits exponent).1 (pow10Fraction digits exponent).2 := by
    unfold pow10Fraction
    split_ifs <;> rfl
  rw [hfraction]
  refine round?_eq_some hx (pow10Fraction_pos digits exponent) ?_
  rwa [pow10Fraction_div]

end InfraDiagram.Binary64

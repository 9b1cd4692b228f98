import InfraDiagram.Proofs.Rounding
import Mathlib.Algebra.Order.Floor.Semifield
import Mathlib.Data.Nat.Cast.Order.Field

/-!
# Shortest decimal forms

The digits that are found for a binary number read back as this number.

## Main statements

- `Binary64.shortest_reaches` — the shortest form of a number lies in its reach
- `Binary64.ofDecimal?_eq_of_shortest` — whatever has the value of the shortest form is read as
  the number
-/

namespace InfraDiagram.Binary64

-- ════════════════════════════════════════════════════════════════════════
-- Powers of ten
-- ════════════════════════════════════════════════════════════════════════

/-- Powers of ten against powers of two: `p / q` is close enough to the logarithm that exponents up
    to `q` leave a margin of one binary and one decimal digit. -/
theorem ten_zpow_le_two_zpow {p q : Nat} (hq : q ≠ 0) (hlow : 2 ^ q ≤ 10 ^ p)
    (hhigh : 10 ^ p ≤ 2 ^ (q + 1)) {g l : Int} (hl : l ≤ q) (h : q * (g + 1) ≤ p * l) :
    (10 : ℚ) ^ g ≤ 2 ^ (l - 1) := by
  have hlow : (2 : ℚ) ^ q ≤ 10 ^ p := by exact_mod_cast hlow
  have hhigh : (10 : ℚ) ^ p ≤ 2 ^ (q + 1) := by exact_mod_cast hhigh
  have hpower : ((10 : ℚ) ^ p) ^ l ≤ 2 ^ (q * l + q) := by
    obtain hneg | hnonneg := lt_or_ge l 0
    · calc ((10 : ℚ) ^ p) ^ l ≤ ((2 : ℚ) ^ q) ^ l := by
            have hflip := inv_anti₀ (by positivity)
              (zpow_le_zpow_left₀ (neg_nonneg.2 hneg.le) (by positivity) hlow)
            rwa [zpow_neg, zpow_neg, inv_inv, inv_inv] at hflip
        _ = 2 ^ (q * l) := by rw [← zpow_natCast, zpow_mul]
        _ ≤ 2 ^ (q * l + q) := zpow_le_zpow_right₀ one_le_two (by omega)
    · calc ((10 : ℚ) ^ p) ^ l ≤ ((2 : ℚ) ^ (q + 1)) ^ l :=
            zpow_le_zpow_left₀ hnonneg (by positivity) hhigh
        _ = 2 ^ (q * l + l) := by
            rw [← zpow_natCast, ← zpow_mul]
            push_cast
            ring_nf
        _ ≤ 2 ^ (q * l + q) := zpow_le_zpow_right₀ one_le_two (by omega)
  have hmargin : (2 : ℚ) ^ q * 2 ^ q ≤ 10 ^ q := by
    rw [← mul_pow]
    gcongr
    norm_num
  have htwo : (0 : ℚ) < 2 ^ q := by positivity
  refine le_of_pow_le_pow_left₀ hq (by positivity) ?_
  calc ((10 : ℚ) ^ g) ^ q = 10 ^ (q * g) := by rw [← zpow_natCast, ← zpow_mul, mul_comm]
    _ ≤ 10 ^ (p * l - q) := zpow_le_zpow_right₀ (by norm_num) (by linarith)
    _ = ((10 : ℚ) ^ p) ^ l / 10 ^ q := by
        rw [zpow_sub₀ (by norm_num), zpow_mul, zpow_natCast, zpow_natCast]
    _ ≤ 2 ^ (q * l + q) / (2 ^ q * 2 ^ q) := by gcongr
    _ = 2 ^ (q * l - q) := by
        rw [zpow_add₀ two_ne_zero, zpow_sub₀ two_ne_zero, zpow_natCast]
        field_simp
    _ = ((2 : ℚ) ^ (l - 1)) ^ q := by
        rw [← zpow_natCast, ← zpow_mul]
        ring_nf

/-- The decimal exponent of a fraction is not too great. -/
theorem ten_zpow_decimalExponent_le {num den : Nat} (hnum : 0 < num) (hden : 0 < den)
    (hlength : (Nat.log2 num : Int) - Nat.log2 den ≤ 100000) :
    (10 : ℚ) ^ decimalExponent num den ≤ num / den := by
  have hreaches : ∀ e : Int, (pow10Fraction 1 e).1 * den ≤ num * (pow10Fraction 1 e).2 →
      (10 : ℚ) ^ e ≤ num / den := by
    intro e he
    have hpos : (0 : ℚ) < (pow10Fraction 1 e).2 := Nat.cast_pos.2 (pow10Fraction_pos 1 e)
    rw [← pow10Fraction_one_div, div_le_div_iff₀ hpos (Nat.cast_pos.2 hden)]
    exact_mod_cast he
  simp only [decimalExponent, decide_eq_true_eq]
  split_ifs with htwo hone
  · exact hreaches _ htwo
  · exact hreaches _ hone
  · refine le_trans ?_ (two_zpow_log2_lt hnum hden).1.le
    refine ten_zpow_le_two_zpow (p := 30103) (q := 100000) (by decide) (by decide +kernel)
      (by decide +kernel) (by exact_mod_cast hlength) ?_
    rw [Int.fdiv_eq_ediv_of_nonneg _ (by decide)]
    push_cast
    omega

-- ════════════════════════════════════════════════════════════════════════
-- The search
-- ════════════════════════════════════════════════════════════════════════

variable {x : Binary64}

/-- A hit on a grid lies in the reach. -/
theorem reaches_of_onGrid? (hx : x.isZero = false) {e : Int} {k : Nat}
    (h : onGrid? x.reach e = some k) : x.Reaches (k * 10 ^ e) := by
  have hgood : x.reach.contains (k * (pow10Fraction 1 e).1) (pow10Fraction 1 e).2 = true := by
    simp only [onGrid?] at h
    generalize x.reach.value * (pow10Fraction 1 e).2 / (x.reach.unit * (pow10Fraction 1 e).1) =
      below at h
    split at h
    · rename_i hbelow _
      obtain rfl := Option.some.inj h
      exact hbelow
    · rename_i habove
      obtain rfl := Option.some.inj h
      exact habove
    · rename_i hbelow habove
      obtain rfl | rfl : k = below ∨ k = below + 1 := by
        split_ifs at h
        all_goals
          have := Option.some.inj h
          omega
      · exact hbelow
      · exact habove
    · cases h
  rw [contains_reach_iff hx (pow10Fraction_pos 1 e)] at hgood
  rwa [Nat.cast_mul, mul_div_assoc, pow10Fraction_one_div] at hgood

/-- What lies less than a quarter of a step below a number rounds to it. -/
theorem reaches_of_near {r : ℚ} (hlow : (x.significand - 1 / 4) * 2 ^ x.exponent < r)
    (hhigh : r ≤ x.significand * 2 ^ x.exponent) : x.Reaches r := by
  have hunit : (0 : ℚ) < 2 ^ x.exponent := by positivity
  refine .inl ⟨lt_of_le_of_lt ?_ hlow, lt_of_le_of_lt hhigh ?_⟩
  · unfold lower
    gcongr
    split_ifs <;> norm_num
  · unfold upper
    gcongr
    linarith

/-- The search ends in the reach, because the last grid is finer than a quarter of a step. -/
theorem shortestFrom_reaches (hx : x.isZero = false) (fuel : Nat) {e : Int}
    (hlast : (10 : ℚ) ^ (e - fuel) < 1 / 4 * 2 ^ x.exponent) :
    x.Reaches ((shortestFrom x.reach e fuel).1 * 10 ^ (shortestFrom x.reach e fuel).2) := by
  induction fuel generalizing e with
  | zero =>
    rw [Nat.cast_zero, sub_zero] at hlast
    obtain ⟨hunit, -, -, hvalue⟩ := reach_ends hx
    have hpos := pow10Fraction_pos 1 (-e)
    have hpower := pow10Fraction_one_div (-e)
    have hgrid : (0 : ℚ) < 10 ^ e := by positivity
    simp only [shortestFrom]
    generalize pow10Fraction 1 (-e) = parts at *
    have hquotient : ((x.reach.value * parts.1 : Nat) : ℚ) / (x.reach.unit * parts.2 : Nat) =
        x.significand * 2 ^ x.exponent / 10 ^ e := by
      push_cast
      rw [mul_div_mul_comm, hvalue, hpower, zpow_neg]
      ring
    have hbelow := Nat.cast_div_le (α := ℚ) (m := x.reach.value * parts.1)
      (n := x.reach.unit * parts.2)
    have habove := Nat.lt_floor_add_one
      (((x.reach.value * parts.1 : Nat) : ℚ) / (x.reach.unit * parts.2 : Nat))
    rw [Nat.floor_div_eq_div, hquotient, div_lt_iff₀ hgrid] at habove
    rw [hquotient, le_div_iff₀ hgrid] at hbelow
    exact reaches_of_near (by linarith) hbelow
  | succ fuel ih =>
    simp only [shortestFrom]
    cases hhit : onGrid? x.reach e with
    | some k => exact reaches_of_onGrid? hx hhit
    | none =>
      refine ih ?_
      rwa [sub_sub, add_comm, ← Nat.cast_succ]

/-- **Shortest forms round to what they were made from.** -/
theorem shortest_reaches (hx : x.isZero = false) :
    x.Reaches (x.shortest.1 * 10 ^ x.shortest.2) := by
  have hsignificand : (0 : ℚ) < x.significand := Nat.cast_pos.2 (significand_pos hx)
  have hbits : (x.significand : ℚ) < 2 ^ 53 := by exact_mod_cast x.significand_lt
  have hunit : (0 : ℚ) < 2 ^ x.exponent := by positivity
  have hfraction : (x.fraction.1 : ℚ) / x.fraction.2 = x.significand * 2 ^ x.exponent := by
    rw [fraction, divPow2_div, zpow_neg, Nat.cast_one, div_one, div_inv_eq_mul]
  have hden : 0 < x.fraction.2 := divPow2_pos _ one_pos _
  have hnum : 0 < x.fraction.1 := by
    by_contra hzero
    rw [Nat.eq_zero_of_not_pos hzero, Nat.cast_zero, zero_div] at hfraction
    exact absurd hfraction (by positivity)
  have hlength : (Nat.log2 x.fraction.1 : Int) - Nat.log2 x.fraction.2 ≤ 100000 := by
    have hlow := (two_zpow_log2_lt hnum hden).1
    have hhigh : (x.significand : ℚ) * 2 ^ x.exponent < 2 ^ (x.exponent + 53) :=
      (mul_lt_mul_of_pos_right hbits hunit).trans_eq (two_zpow_add x.exponent 53).symm
    rw [hfraction] at hlow
    have := (zpow_lt_zpow_iff_right₀ one_lt_two).1 (hlow.trans hhigh)
    have := x.exponent_range.2
    omega
  have hexponent := ten_zpow_decimalExponent_le hnum hden hlength
  rw [hfraction] at hexponent
  simp only [shortest, hx, Bool.false_eq_true, if_false]
  refine shortestFrom_reaches hx 18 ?_
  generalize decimalExponent x.fraction.1 x.fraction.2 = e at *
  calc (10 : ℚ) ^ (e + 1 - (18 : Nat)) = 10 ^ e / 10 ^ 17 := by
        rw [show e + 1 - (18 : Nat) = e - (17 : Nat) by omega, zpow_sub₀ (by norm_num),
          zpow_natCast]
    _ ≤ x.significand * 2 ^ x.exponent / 10 ^ 17 := by gcongr
    _ < 2 ^ 53 * 2 ^ x.exponent / 10 ^ 17 := by gcongr
    _ < 1 / 4 * 2 ^ x.exponent := by
        rw [mul_div_right_comm]
        exact mul_lt_mul_of_pos_right (by norm_num) hunit

/-- Whatever has the value of the shortest form of a number is read as the number. -/
theorem ofDecimal?_eq_of_shortest (hx : x.isZero = false) {digits : Nat} {exponent : Int}
    (h : (digits : ℚ) * 10 ^ exponent = x.shortest.1 * 10 ^ x.shortest.2) :
    ofDecimal? x.negative digits exponent = some x :=
  ofDecimal?_eq_some hx (h ▸ shortest_reaches hx)

end InfraDiagram.Binary64

import InfraDiagram.Inventory.RackUnit
import InfraDiagram.Proofs.Numerals
import InfraDiagram.Proofs.Spacing

/-!
# Rack units are read exactly

The unit of a device is taken from the first source that gives one: its range, its position, and
else the unit of devices without a position. A source gives a number that fits 32 bits, or nothing
at all. No number is cut off or wraps around, however many digits there are.

## Main definitions

- `RackUnit.BeginsWith` — a text that begins with the numeral of a number
- `RackUnit.word?` — digits counted in words of 32 bits
- `RackUnit.Denotes`, `RackUnit.IsUnreadable` — what values say
- `RackUnit.MountedAt` — the unit of a device, source by source

## Main statements

- `RackUnit.leading?_eq_some_iff`, `RackUnit.leading?_eq_word?` — units in texts
- `RackUnit.ofValue?_eq_some_iff`, `RackUnit.ofValue?_eq_none_iff` — units in values
- `RackUnit.start_eq_iff` — the unit of a device
- `units_read_exactly` — all of these at once
-/

namespace InfraDiagram

-- ════════════════════════════════════════════════════════════════════════
-- Fractions
-- ════════════════════════════════════════════════════════════════════════

namespace Binary64

/-- The rational number that a binary number denotes. -/
def toRat (x : Binary64) : ℚ :=
  (if x.negative then -1 else 1) * (x.significand * 2 ^ x.exponent)

theorem fraction_div (x : Binary64) :
    (x.fraction.1 : ℚ) / x.fraction.2 = x.significand * 2 ^ x.exponent := by
  rw [fraction, divPow2_div, Nat.cast_one, div_one, zpow_neg, div_inv_eq_mul]

theorem toRat_nonneg_iff (x : Binary64) : 0 ≤ x.toRat ↔ (!x.negative || x.isZero) = true := by
  have hpow : (0 : ℚ) < 2 ^ x.exponent := by positivity
  rw [toRat, isZero]
  cases x.negative with
  | false => simpa using by positivity
  | true =>
    have hsign : (0 : ℚ) ≤ -1 * (x.significand * 2 ^ x.exponent) ↔ x.significand = 0 := by
      constructor
      · intro h
        by_contra hne
        have hpos : (0 : ℚ) < x.significand := Nat.cast_pos.2 (Nat.pos_of_ne_zero hne)
        linarith [mul_pos hpos hpow]
      · intro h
        simp [h]
    simpa using hsign

/-- A number that is not negative is its fraction. -/
theorem toRat_eq_fraction {x : Binary64} (h : 0 ≤ x.toRat) :
    x.toRat = x.fraction.1 / x.fraction.2 := by
  rw [fraction_div, toRat]
  rw [toRat_nonneg_iff, Bool.or_eq_true, Bool.not_eq_true', isZero, beq_iff_eq] at h
  rcases h with h | h
  · simp [h]
  · simp [h]

theorem isWithin_iff (x : Binary64) (bound : Nat) :
    x.isWithin bound = true ↔ 0 ≤ x.toRat ∧ x.toRat ≤ bound := by
  have hden : (0 : ℚ) < x.fraction.2 := Nat.cast_pos.2 (divPow2_pos _ Nat.one_pos _)
  have hbound : 0 ≤ x.toRat → (x.toRat ≤ bound ↔ x.fraction.1 ≤ bound * x.fraction.2) := by
    intro h
    rw [toRat_eq_fraction h, div_le_iff₀ hden]
    exact_mod_cast Iff.rfl
  rw [isWithin, Bool.and_eq_true, decide_eq_true_eq, ← toRat_nonneg_iff]
  exact and_congr_right fun h => (hbound h).symm

theorem floor?_eq {x : Binary64} (h : 0 ≤ x.toRat) : x.floor? = some ⌊x.toRat⌋₊ := by
  have hsign : ¬ (x.negative && !x.isZero) = true := by
    have hnonneg := (toRat_nonneg_iff x).1 h
    cases hx : x.negative <;> simp_all
  rw [floor?, if_neg hsign, toRat_eq_fraction h, Nat.floor_div_eq_div]

end Binary64

namespace Value

variable {given : Option Value}

theorem bind_list?_eq_some_iff {items : List Value} :
    given.bind list? = some items ↔ given = some (.list items) := by
  constructor
  · intro h
    obtain ⟨v, rfl, hlist⟩ := Option.bind_eq_some_iff.1 h
    cases v with
    | list items => exact congrArg (fun items => some (Value.list items)) (Option.some.inj hlist)
    | null | bool | number | text | mapping => cases hlist
  · rintro rfl
    rfl

theorem bind_mapping?_eq_some_iff {m : Mapping} :
    given.bind mapping? = some m ↔ given = some (.mapping m) := by
  constructor
  · intro h
    obtain ⟨v, rfl, hmapping⟩ := Option.bind_eq_some_iff.1 h
    cases v with
    | mapping m => exact congrArg (fun m => some (Value.mapping m)) (Option.some.inj hmapping)
    | null | bool | number | text | list => cases hmapping
  · rintro rfl
    rfl

end Value

namespace RackUnit

open Text

-- ════════════════════════════════════════════════════════════════════════
-- Units in texts
-- ════════════════════════════════════════════════════════════════════════

/-- White space, any number of zeros, and the numeral of a number, behind which no further digit
    stands. -/
def BeginsWith (s : String) (n : Nat) : Prop :=
  ∃ space zeros rest,
    s.toList = space ++ (List.replicate zeros '0' ++ (toString n).toList ++ rest) ∧
    (∀ c ∈ space, isSpace c = true) ∧ ∀ c ∈ rest.head?, isAsciiDigit c = false

/-- The digits at the beginning of a text, white space in front of them aside. -/
def leadingDigits (s : String) : List Char :=
  (s.toList.dropWhile isSpace).takeWhile isAsciiDigit

theorem isDigits_leadingDigits (s : String) : IsDigits (leadingDigits s) :=
  fun _ hc => List.mem_takeWhile_imp hc

theorem leading?_eq (s : String) : leading? s =
    if leadingDigits s = [] then none
    else if natOfDigits (leadingDigits s) ≤ greatest then some (natOfDigits (leadingDigits s))
    else none := by
  rw [leading?]
  simp only [List.isEmpty_iff]
  rfl

theorem dropWhile_isSpace_of_isDigits {ds : List Char} (hne : ds ≠ []) (h : IsDigits ds)
    (rest : List Char) : (ds ++ rest).dropWhile isSpace = ds ++ rest := by
  cases ds with
  | nil => exact absurd rfl hne
  | cons d ds =>
    have hd : isSpace d = false := isSpace_of_isAsciiDigit (h d List.mem_cons_self)
    exact List.dropWhile_cons_of_neg (by simp [hd])

/-- A text begins with a number exactly if there are digits at its beginning that denote it. -/
theorem beginsWith_iff {s : String} {n : Nat} :
    BeginsWith s n ↔ leadingDigits s ≠ [] ∧ natOfDigits (leadingDigits s) = n := by
  have htext : ∀ n : Nat, (toString n).toList = Nat.toDigits 10 n := fun n => by simp
  constructor
  · rintro ⟨space, zeros, rest, hs, hspace, hrest⟩
    rw [htext] at hs
    have hdigits : IsDigits (List.replicate zeros '0' ++ Nat.toDigits 10 n) :=
      (isDigits_replicate zeros).append (isDigits_toDigits n)
    have hne : List.replicate zeros '0' ++ Nat.toDigits 10 n ≠ [] :=
      List.append_ne_nil_of_right_ne_nil _ (Nat.toDigits_ne_nil)
    have hleading : leadingDigits s = List.replicate zeros '0' ++ Nat.toDigits 10 n := by
      rw [leadingDigits, hs, List.dropWhile_append_of_pos hspace,
        dropWhile_isSpace_of_isDigits hne hdigits, takeWhile_isAsciiDigit hdigits hrest]
    exact ⟨hleading ▸ hne, by rw [hleading, natOfDigits_zeros_append, natOfDigits_toDigits]⟩
  · rintro ⟨hne, rfl⟩
    obtain ⟨zeros, hzeros⟩ := exists_zeros_toDigits hne (isDigits_leadingDigits s)
    refine ⟨s.toList.takeWhile isSpace, zeros,
      (s.toList.dropWhile isSpace).dropWhile isAsciiDigit, ?_,
      fun c hc => List.mem_takeWhile_imp hc, fun c hc => ?_⟩
    · rw [htext, ← hzeros, leadingDigits, List.takeWhile_append_dropWhile,
        List.takeWhile_append_dropWhile]
    · have hhead := List.head?_dropWhile_not isAsciiDigit (s.toList.dropWhile isSpace)
      rw [hc] at hhead
      exact hhead

/-- The unit of a text is the number that it begins with, if that fits 32 bits. -/
theorem leading?_eq_some_iff {s : String} {n : Nat} :
    leading? s = some n ↔ BeginsWith s n ∧ n < 2 ^ 32 := by
  have hfits : ∀ n : Nat, n ≤ greatest ↔ n < 2 ^ 32 := fun n => Nat.lt_succ_iff.symm
  rw [leading?_eq, beginsWith_iff]
  split_ifs with hnone hsmall
  · exact iff_of_false (fun h => nomatch h) fun h => h.1.1 hnone
  · rw [Option.some_inj]
    constructor
    · rintro rfl
      exact ⟨⟨hnone, rfl⟩, (hfits _).1 hsmall⟩
    · exact fun h => h.1.2
  · refine iff_of_false (fun h => nomatch h) ?_
    rintro ⟨⟨-, rfl⟩, hn⟩
    exact hsmall ((hfits _).2 hn)

-- ════════════════════════════════════════════════════════════════════════
-- Words of 32 bits
-- ════════════════════════════════════════════════════════════════════════

/-- One more digit, unless the result would not fit. -/
def pushDigit? (word : UInt32) (digit : Char) : Option UInt32 :=
  if word.toNat * 10 + digitValue digit < 2 ^ 32 then
    some (word * 10 + UInt32.ofNat (digitValue digit))
  else none

/-- Digits counted in words of 32 bits, which gives up at the first digit that does not fit. -/
def word? (digits : List Char) : Option UInt32 :=
  digits.foldlM pushDigit? 0

theorem pushDigit?_eq_some_iff {word result : UInt32} {digit : Char} :
    pushDigit? word digit = some result ↔ result.toNat = 10 * word.toNat + digitValue digit := by
  have hresult : result.toNat < 2 ^ 32 := result.toNat_lt
  unfold pushDigit?
  split_ifs with hfits
  · have hsum : (word * 10 + UInt32.ofNat (digitValue digit)).toNat =
        10 * word.toNat + digitValue digit := by
      simp only [UInt32.toNat_add, UInt32.toNat_mul, UInt32.toNat_ofNat', UInt32.reduceToNat]
      omega
    rw [Option.some_inj, ← UInt32.toNat_inj, hsum]
    exact eq_comm
  · exact iff_of_false (fun h => nomatch h) (by omega)

/-- Counting gives up exactly if the digits denote a number that does not fit. -/
theorem word?_eq_some_iff {digits : List Char} {word : UInt32} :
    word? digits = some word ↔ word.toNat = natOfDigits digits := by
  induction digits using List.reverseRecOn generalizing word with
  | nil =>
    have hzero : word? [] = some 0 := rfl
    rw [hzero, Option.some_inj, ← UInt32.toNat_inj]
    exact eq_comm
  | append_singleton ds d ih =>
    have hstep : word? (ds ++ [d]) = (word? ds).bind (pushDigit? · d) := by
      rw [word?, List.foldlM_append, ← word?]
      simp
    rw [hstep, Option.bind_eq_some_iff, natOfDigits_concat]
    constructor
    · rintro ⟨before, hbefore, hpush⟩
      rw [← ih.1 hbefore]
      exact pushDigit?_eq_some_iff.1 hpush
    · intro hword
      -- what was counted before the last digit is smaller, so it fits as well
      have hsmall : natOfDigits ds < 2 ^ 32 := by
        have hfits : word.toNat < 2 ^ 32 := word.toNat_lt
        omega
      have hbefore : (UInt32.ofNat (natOfDigits ds)).toNat = natOfDigits ds :=
        UInt32.toNat_ofNat_of_lt' hsmall
      exact ⟨_, ih.2 hbefore, pushDigit?_eq_some_iff.2 (by rw [hbefore, hword])⟩

/-- The unit of a text is what its digits count to in words of 32 bits. -/
theorem leading?_eq_word? (s : String) : leading? s =
    if leadingDigits s = [] then none else (word? (leadingDigits s)).map UInt32.toNat := by
  split_ifs with hnone
  · rw [leading?_eq, if_pos hnone]
  · refine Option.ext fun n => ?_
    rw [leading?_eq_some_iff, beginsWith_iff, Option.map_eq_some_iff]
    constructor
    · rintro ⟨⟨-, rfl⟩, hn⟩
      have hword := UInt32.toNat_ofNat_of_lt' hn
      exact ⟨_, word?_eq_some_iff.2 hword, hword⟩
    · rintro ⟨word, hword, rfl⟩
      exact ⟨⟨hnone, (word?_eq_some_iff.1 hword).symm⟩, word.toNat_lt⟩

-- ════════════════════════════════════════════════════════════════════════
-- Units in values
-- ════════════════════════════════════════════════════════════════════════

/-- What a value says as a unit: an integer that fits 32 bits, a fraction between zero and the
    greatest unit rounded down, or the number that a text begins with if it fits 32 bits. -/
inductive Denotes : Value → Nat → Prop where
  | integer {n : Nat} (h : n < 2 ^ 32) : Denotes (.number (.int n)) n
  | fraction {x : Binary64} (hlower : 0 ≤ x.toRat) (hupper : x.toRat ≤ 2 ^ 32 - 1) :
      Denotes (.number (.float x)) ⌊x.toRat⌋₊
  | text {s : String} {n : Nat} (hs : BeginsWith s n) (h : n < 2 ^ 32) : Denotes (.text s) n

theorem ofValue?_int_eq_some_iff {i : Int} {n : Nat} :
    ofValue? (.number (.int i)) = some n ↔ Denotes (.number (.int i)) n := by
  unfold ofValue?
  dsimp only
  split_ifs with hrange
  · obtain ⟨hnonneg, hle⟩ := hrange
    obtain ⟨m, rfl⟩ := Int.eq_ofNat_of_zero_le hnonneg
    rw [Option.some_inj, Int.toNat_natCast]
    constructor
    · rintro rfl
      exact .integer (Nat.lt_succ_of_le (by exact_mod_cast hle))
    · intro h
      cases h
      rfl
  · refine iff_of_false (fun h => nomatch h) fun h => hrange ?_
    cases h with
    | integer h => exact ⟨Int.natCast_nonneg n, by exact_mod_cast Nat.le_of_lt_succ h⟩

theorem ofValue?_float_eq_some_iff {x : Binary64} {n : Nat} :
    ofValue? (.number (.float x)) = some n ↔ Denotes (.number (.float x)) n := by
  have hgreatest : (greatest : ℚ) = 2 ^ 32 - 1 := by norm_num [greatest]
  unfold ofValue?
  dsimp only
  split_ifs with hwithin
  · obtain ⟨hlower, hupper⟩ := (Binary64.isWithin_iff x greatest).1 hwithin
    rw [Binary64.floor?_eq hlower, Option.some_inj]
    constructor
    · rintro rfl
      exact .fraction hlower (hgreatest ▸ hupper)
    · intro h
      cases h
      rfl
  · refine iff_of_false (fun h => nomatch h) fun h => hwithin ?_
    cases h with
    | fraction hlower hupper =>
      exact (Binary64.isWithin_iff x greatest).2 ⟨hlower, hgreatest ▸ hupper⟩

theorem ofValue?_eq_some_iff {v : Value} {n : Nat} : ofValue? v = some n ↔ Denotes v n := by
  match v with
  | .number (.int i) => exact ofValue?_int_eq_some_iff
  | .number (.float x) => exact ofValue?_float_eq_some_iff
  | .text s =>
    refine leading?_eq_some_iff.trans ⟨fun h => .text h.1 h.2, fun h => ?_⟩
    cases h with
    | text hs h => exact ⟨hs, h⟩
  | .null | .bool _ | .list _ | .mapping _ =>
    exact iff_of_false (fun h => nomatch h) fun h => nomatch h

theorem Denotes.lt {v : Value} {n : Nat} (h : Denotes v n) : n < 2 ^ 32 := by
  cases h with
  | integer h => exact h
  | @fraction x hlower hupper =>
    rw [Nat.floor_lt hlower]
    refine lt_of_le_of_lt hupper ?_
    norm_num
  | text hs h => exact h

/-- What says nothing as a unit: integers that are negative or do not fit 32 bits, fractions below
    zero or above the greatest unit, texts that do not begin with a number or with one that does
    not fit, and everything that is no number and no text. -/
def IsUnreadable : Value → Prop
  | .number (.int i) => i < 0 ∨ 2 ^ 32 ≤ i
  | .number (.float x) => x.toRat < 0 ∨ 2 ^ 32 - 1 < x.toRat
  | .text s => ∀ n, BeginsWith s n → 2 ^ 32 ≤ n
  | .null | .bool _ | .list _ | .mapping _ => True

theorem isUnreadable_iff {v : Value} : IsUnreadable v ↔ ∀ n, ¬ Denotes v n := by
  constructor
  · intro h n hn
    cases hn with
    | integer hsmall =>
      obtain hnegative | hgreat : (n : Int) < 0 ∨ 2 ^ 32 ≤ (n : Int) := h
      · omega
      · omega
    | fraction hlower hupper =>
      rcases h with hnegative | hgreat
      · exact absurd hlower (not_le.2 hnegative)
      · exact absurd hupper (not_le.2 hgreat)
    | text hs hsmall => exact absurd (h n hs) (Nat.not_le.2 hsmall)
  · intro h
    match v with
    | .number (.int i) =>
      by_contra hreadable
      obtain ⟨hnonneg, hsmall⟩ : 0 ≤ i ∧ i < 2 ^ 32 := by
        simpa [IsUnreadable] using hreadable
      obtain ⟨n, rfl⟩ := Int.eq_ofNat_of_zero_le hnonneg
      exact h n (.integer (by exact_mod_cast hsmall))
    | .number (.float x) =>
      by_contra hreadable
      rw [IsUnreadable, not_or, not_lt, not_lt] at hreadable
      exact h _ (.fraction hreadable.1 hreadable.2)
    | .text s => exact fun n hn => Nat.not_lt.1 fun hsmall => h n (.text hn hsmall)
    | .null | .bool _ | .list _ | .mapping _ => trivial

theorem ofValue?_eq_none_iff {v : Value} : ofValue? v = none ↔ IsUnreadable v := by
  rw [isUnreadable_iff, Option.eq_none_iff_forall_ne_some]
  exact forall_congr' fun n => not_congr ofValue?_eq_some_iff

-- ════════════════════════════════════════════════════════════════════════
-- Units of devices
-- ════════════════════════════════════════════════════════════════════════

/-- The first value of a device's range. The second name of the range is looked up only if there is
    nothing under the first, not even null. -/
def RangeBegins (device : Mapping) (v : Value) : Prop :=
  ∃ rest, device.get? "positionRange" = some (.list (v :: rest)) ∨
    (device.get? "positionRange" = none ∧ device.get? "position_range" = some (.list (v :: rest)))

/-- The value that a device's position gives for its unit. -/
def PositionNames (device : Mapping) (v : Value) : Prop :=
  ∃ position : Mapping, device.get? "position" = some (.mapping position) ∧
    position.get? "unit" = some v

/-- The unit of a device by the first of its sources that can be read. -/
inductive MountedAt (device : Mapping) : Nat → Prop where
  | range {v : Value} {n : Nat} : RangeBegins device v → Denotes v n → MountedAt device n
  | position {v : Value} {n : Nat} : (∀ w, RangeBegins device w → IsUnreadable w) →
      PositionNames device v → Denotes v n → MountedAt device n
  | nowhere : (∀ w, RangeBegins device w → IsUnreadable w) →
      (∀ w, PositionNames device w → IsUnreadable w) → MountedAt device 9999

theorem ofRange?_eq_some_iff {device : Mapping} {n : Nat} :
    ofRange? device = some n ↔ ∃ v, RangeBegins device v ∧ Denotes v n := by
  constructor
  · intro h
    obtain ⟨items, hitems, hunit⟩ := Option.bind_eq_some_iff.1 h
    obtain ⟨v, hv, hread⟩ := Option.bind_eq_some_iff.1 hunit
    obtain ⟨rest, rfl⟩ := List.head?_eq_some_iff.1 hv
    have hrange := Value.bind_list?_eq_some_iff.1 hitems
    exact ⟨v, ⟨rest, Option.or_eq_some_iff.1 hrange⟩, ofValue?_eq_some_iff.1 hread⟩
  · rintro ⟨v, ⟨rest, hrange⟩, hread⟩
    have hitems := Value.bind_list?_eq_some_iff.2 (Option.or_eq_some_iff.2 hrange)
    exact Option.bind_eq_some_iff.2 ⟨v :: rest, hitems, ofValue?_eq_some_iff.2 hread⟩

theorem ofPosition?_eq_some_iff {device : Mapping} {n : Nat} :
    ofPosition? device = some n ↔ ∃ v, PositionNames device v ∧ Denotes v n := by
  constructor
  · intro h
    obtain ⟨position, hmembers, hunit⟩ := Option.bind_eq_some_iff.1 h
    obtain ⟨v, hv, hread⟩ := Option.bind_eq_some_iff.1 hunit
    have hposition := Value.bind_mapping?_eq_some_iff.1 hmembers
    exact ⟨v, ⟨position, hposition, hv⟩, ofValue?_eq_some_iff.1 hread⟩
  · rintro ⟨v, ⟨position, hposition, hv⟩, hread⟩
    have hmembers := Value.bind_mapping?_eq_some_iff.2 hposition
    exact Option.bind_eq_some_iff.2 ⟨position, hmembers,
      Option.bind_eq_some_iff.2 ⟨v, hv, ofValue?_eq_some_iff.2 hread⟩⟩

/-- A source gives no unit exactly if whatever it holds is unreadable. -/
theorem eq_none_iff_of_source {source : Option Nat} {Holds : Value → Prop}
    (h : ∀ n, source = some n ↔ ∃ v, Holds v ∧ Denotes v n) :
    source = none ↔ ∀ v, Holds v → IsUnreadable v := by
  rw [Option.eq_none_iff_forall_ne_some]
  constructor
  · exact fun hnone v hv => isUnreadable_iff.2 fun n hn => hnone n ((h n).2 ⟨v, hv, hn⟩)
  · intro hunreadable n hn
    obtain ⟨v, hv, hread⟩ := (h n).1 hn
    exact isUnreadable_iff.1 (hunreadable v hv) n hread

theorem ofRange?_eq_none_iff {device : Mapping} :
    ofRange? device = none ↔ ∀ v, RangeBegins device v → IsUnreadable v :=
  eq_none_iff_of_source fun _ => ofRange?_eq_some_iff

theorem ofPosition?_eq_none_iff {device : Mapping} :
    ofPosition? device = none ↔ ∀ v, PositionNames device v → IsUnreadable v :=
  eq_none_iff_of_source fun _ => ofPosition?_eq_some_iff

/-- A device is mounted at the unit that is computed, and at no other. -/
theorem start_eq_iff {device : Mapping} {n : Nat} : start device = n ↔ MountedAt device n := by
  constructor
  · rintro rfl
    cases hrange : ofRange? device with
    | some n =>
      obtain ⟨v, hv, hread⟩ := ofRange?_eq_some_iff.1 hrange
      have hstart : start device = n := by rw [start, hrange]; rfl
      exact hstart ▸ .range hv hread
    | none =>
      have hunreadable := ofRange?_eq_none_iff.1 hrange
      cases hposition : ofPosition? device with
      | some n =>
        obtain ⟨v, hv, hread⟩ := ofPosition?_eq_some_iff.1 hposition
        have hstart : start device = n := by rw [start, hrange, hposition]; rfl
        exact hstart ▸ .position hunreadable hv hread
      | none =>
        have hstart : start device = 9999 := by rw [start, hrange, hposition]; rfl
        exact hstart ▸ .nowhere hunreadable (ofPosition?_eq_none_iff.1 hposition)
  · intro h
    cases h with
    | range hv hread =>
      rw [start, ofRange?_eq_some_iff.2 ⟨_, hv, hread⟩]
      rfl
    | position hunreadable hv hread =>
      rw [start, ofRange?_eq_none_iff.2 hunreadable, ofPosition?_eq_some_iff.2 ⟨_, hv, hread⟩]
      rfl
    | nowhere hrange hposition =>
      rw [start, ofRange?_eq_none_iff.2 hrange, ofPosition?_eq_none_iff.2 hposition]
      rfl

theorem MountedAt.lt {device : Mapping} {n : Nat} (h : MountedAt device n) : n < 2 ^ 32 := by
  cases h with
  | range hv hread => exact hread.lt
  | position hunreadable hv hread => exact hread.lt
  | nowhere hrange hposition => decide

end RackUnit

open RackUnit

/-- **Rack units are read exactly.** A text gives the number that it begins with if that fits 32
    bits, and nothing otherwise; counting its digits in words of 32 bits comes to the same. Values
    give what they denote, or are unreadable. A device is mounted at the unit of the first source
    that can be read, and that unit fits 32 bits. -/
theorem units_read_exactly :
    (∀ s n, leading? s = some n ↔ BeginsWith s n ∧ n < 2 ^ 32) ∧
    (∀ s, leading? s =
      if leadingDigits s = [] then none else (word? (leadingDigits s)).map UInt32.toNat) ∧
    (∀ v, (∀ n, ofValue? v = some n ↔ Denotes v n) ∧ (ofValue? v = none ↔ IsUnreadable v)) ∧
    ∀ device, (∀ n, start device = n ↔ MountedAt device n) ∧ start device < 2 ^ 32 := by
  refine ⟨fun s n => leading?_eq_some_iff, leading?_eq_word?,
    fun v => ⟨fun n => ofValue?_eq_some_iff, ofValue?_eq_none_iff⟩,
    fun device => ⟨fun n => start_eq_iff, ?_⟩⟩
  exact (start_eq_iff.1 rfl).lt

end InfraDiagram

/-!
# Binary floating-point numbers

The finite numbers of the 64-bit binary format, held as what they denote: a sign, a significand
and a power of two. Documents give these numbers as decimal literals, so the only arithmetic is
the correct rounding of an exact fraction.

## Main definitions

- `Binary64` — a finite number in its canonical form
- `Binary64.round?` — the number nearest to a fraction, ties to the even significand
- `Binary64.ofDecimal?` — the number nearest to `digits · 10 ^ exponent`
- `Binary64.floor?` — the integral part of a number that is not negative

## Design notes

A canonical form is a proof field, so two equal numbers of equal sign are equal as values and
equality is decidable. The signed zeros are the two values with significand `0`.
-/

namespace InfraDiagram

/-- The finite number `± significand · 2 ^ exponent`, either with all 53 bits of the significand
    in use or with the least exponent of the format. -/
structure Binary64 where
  /-- The sign; it also tells the two zeros apart. -/
  negative : Bool
  significand : Nat
  exponent : Int
  significand_lt : significand < 1 <<< 53
  exponent_range : -1074 ≤ exponent ∧ exponent ≤ 971
  canonical : exponent = -1074 ∨ 1 <<< 52 ≤ significand
  deriving DecidableEq

namespace Binary64

def zero (negative : Bool) : Binary64 :=
  ⟨negative, 0, -1074, by decide, by decide, .inl rfl⟩

instance : Inhabited Binary64 := ⟨zero false⟩

def ofParts? (negative : Bool) (significand : Nat) (exponent : Int) : Option Binary64 :=
  if h : significand < 1 <<< 53 ∧ (-1074 ≤ exponent ∧ exponent ≤ 971) ∧
      (exponent = -1074 ∨ 1 <<< 52 ≤ significand) then
    some ⟨negative, significand, exponent, h.1, h.2.1, h.2.2⟩
  else none

/-- Both zeros. -/
def isZero (x : Binary64) : Bool :=
  x.significand == 0

/-- Numeric equality: the two zeros are equal. -/
def sameNumber (x y : Binary64) : Bool :=
  (x.isZero && y.isZero) || x == y

/-- The quotient rounded to the nearest natural number, a half to the even neighbour. -/
def divNearest (num den : Nat) : Nat :=
  let q := num / den
  let r := num % den
  if den < 2 * r ∨ (den = 2 * r ∧ q % 2 = 1) then q + 1 else q

def divPow2 (num den : Nat) (e : Int) : Nat × Nat :=
  if 0 ≤ e then (num, den <<< e.toNat) else (num <<< (-e).toNat, den)

/-- The exponent of the binade of `num / den`, the least exponent of the format at the lowest. -/
def binade (num den : Nat) : Int :=
  let guess : Int := (Nat.log2 num : Int) - Nat.log2 den - 52
  let (n, d) := divPow2 num den guess
  max (if n / d < 1 <<< 52 then guess - 1 else guess) (-1074)

/-- The number nearest to `± num / den`; none if that is beyond the greatest finite number. -/
def round? (negative : Bool) (num den : Nat) : Option Binary64 :=
  if num = 0 then some (zero negative)
  else
    let e := binade num den
    let (n, d) := divPow2 num den e
    let m := divNearest n d
    if m = 1 <<< 53 then ofParts? negative (1 <<< 52) (e + 1) else ofParts? negative m e

/-- The number nearest to `± digits · 10 ^ exponent`; none if that is beyond the greatest finite
    number. Exponents far outside the format's range are answered without computing the power. -/
def ofDecimal? (negative : Bool) (digits : Nat) (exponent : Int) : Option Binary64 :=
  if digits = 0 then some (zero negative)
  else
    let magnitude : Int := (Nat.toDigits 10 digits).length + exponent
    if 310 < magnitude then none
    else if magnitude < -330 then some (zero negative)
    else if 0 ≤ exponent then round? negative (digits * Nat.pow 10 exponent.toNat) 1
    else round? negative digits (Nat.pow 10 (-exponent).toNat)

def fraction (x : Binary64) : Nat × Nat :=
  divPow2 x.significand 1 (-x.exponent)

/-- The greatest natural number that is not above `x`; none for numbers below zero. -/
def floor? (x : Binary64) : Option Nat :=
  if x.negative && !x.isZero then none
  else
    let (n, d) := x.fraction
    some (n / d)

/-- Whether `x` is at least `0` and at most `bound`. -/
def isWithin (x : Binary64) (bound : Nat) : Bool :=
  let (n, d) := x.fraction
  (!x.negative || x.isZero) && n ≤ bound * d

end Binary64

end InfraDiagram

import InfraDiagram.Number.Binary64

/-!
# Shortest decimal forms

The fewest decimal digits that read back as a given binary number. Every binary number stands for
an interval of reals that round to it; a decimal form is good when it lies in that interval.

## Main definitions

- `Binary64.Reach` — the interval of reals that round to a number, as scaled natural numbers
- `Binary64.shortest` — the fewest digits that read back, and of those the nearest
- `NumeralLayout` — how digits and an exponent are laid out as text

## Design notes

For each digit count from one upwards, only the two neighbours of the number on that decimal grid
are tried: if any point of the grid lies in the interval, one of the two does. Everything is exact
arithmetic on natural numbers.
-/

namespace InfraDiagram

namespace Binary64

/-- The reals that round to a number, as multiples of a common unit: `value / unit` is the number,
    `low / unit` and `high / unit` are the ends, and `closed` tells whether the ends belong. -/
structure Reach where
  low : Nat
  value : Nat
  high : Nat
  unit : Nat
  closed : Bool

/-- The interval of a number: half a step to each side, and only a quarter of a step downwards
    from the least number of a binade. The ends round to the even significand. -/
def reach (x : Binary64) : Reach :=
  let down := if x.significand = 1 <<< 52 ∧ -1074 < x.exponent then 1 else 2
  let (scale, unit) := divPow2 1 4 (-x.exponent)
  { low := (4 * x.significand - down) * scale
    value := 4 * x.significand * scale
    high := (4 * x.significand + 2) * scale
    unit := unit
    closed := x.significand % 2 = 0 }

def Reach.contains (r : Reach) (num den : Nat) : Bool :=
  if r.closed then r.low * den ≤ num * r.unit && num * r.unit ≤ r.high * den
  else r.low * den < num * r.unit && num * r.unit < r.high * den

def pow10Fraction (n : Nat) (e : Int) : Nat × Nat :=
  if 0 ≤ e then (n * Nat.pow 10 e.toNat, 1) else (n, Nat.pow 10 (-e).toNat)

/-- The decimal exponent of a fraction that is not zero: `10 ^ e ≤ num / den < 10 ^ (e + 1)`. -/
def decimalExponent (num den : Nat) : Int :=
  let guess : Int := (((Nat.log2 num : Int) - Nat.log2 den) * 30103).fdiv 100000 - 1
  let reaches (e : Int) : Bool :=
    let (n, d) := pow10Fraction 1 e
    n * den ≤ num * d
  if reaches (guess + 2) then guess + 2 else if reaches (guess + 1) then guess + 1 else guess

/-- The better neighbour of the number on the grid of multiples of `10 ^ e`, if one lies in the
    interval: of two the nearer, of two equally near the even one. -/
def onGrid? (r : Reach) (e : Int) : Option Nat :=
  let (p, q) := pow10Fraction 1 e
  let below := (r.value * q) / (r.unit * p)
  let good (k : Nat) : Bool := r.contains (k * p) q
  match good below, good (below + 1) with
  | true, false => some below
  | false, true => some (below + 1)
  | true, true =>
    let twice := 2 * r.value * q
    let middle := (2 * below + 1) * (r.unit * p)
    if twice < middle then some below
    else if middle < twice then some (below + 1)
    else some (below + below % 2)
  | false, false => none

/-- The first grid with a hit, from `e` downwards, with at most `fuel` further digits. -/
def shortestFrom (r : Reach) (e : Int) : Nat → Nat × Int
  | 0 => ((r.value * (pow10Fraction 1 (-e)).1) / (r.unit * (pow10Fraction 1 (-e)).2), e)
  | fuel + 1 =>
    match onGrid? r e with
    | some k => (k, e)
    | none => shortestFrom r (e - 1) fuel

/-- Digits and exponent, `digits · 10 ^ exponent`, of the shortest decimal form that reads back as
    the absolute value of `x`. The search starts one grid above the leading digit, where a number
    just below a power of ten may find that power; seventeen digits always suffice. -/
def shortest (x : Binary64) : Nat × Int :=
  if x.isZero then (0, 0)
  else
    let (n, d) := x.fraction
    shortestFrom x.reach (decimalExponent n d + 1) 18

end Binary64

/-- How a number with a fractional part or an exponent is written. -/
structure NumeralLayout where
  /-- The least decimal exponent that is written positionally. -/
  leastPositional : Int
  /-- The greatest decimal exponent that is written positionally. -/
  greatestPositional : Int
  /-- Whether an exponent that is not negative carries a plus sign. -/
  plusSign : Bool

namespace NumeralLayout

def zeros (n : Nat) : String :=
  String.ofList (List.replicate n '0')

/-- The digits as a positional numeral whose first digit counts `10 ^ e`; there is always a digit
    on either side of the point. -/
def positional (digits : List Char) (e : Int) : String :=
  if e < 0 then "0." ++ zeros (-e - 1).toNat ++ String.ofList digits
  else
    let whole := e.toNat + 1
    if digits.length ≤ whole then
      String.ofList digits ++ zeros (whole - digits.length) ++ ".0"
    else String.ofList (digits.take whole) ++ "." ++ String.ofList (digits.drop whole)

/-- The digits with a point after the first and the exponent `e`. -/
def scientific (layout : NumeralLayout) (digits : List Char) (e : Int) : String :=
  let mantissa :=
    match digits with
    | [] => "0"
    | [d] => String.ofList [d]
    | d :: rest => String.ofList [d, '.'] ++ String.ofList rest
  let sign := if e < 0 then "-" else if layout.plusSign then "+" else ""
  mantissa ++ "e" ++ sign ++ toString e.natAbs

def render (layout : NumeralLayout) (x : Binary64) : String :=
  let sign := if x.negative then "-" else ""
  if x.isZero then sign ++ "0.0"
  else
    let (n, e) := x.shortest
    let digits := Nat.toDigits 10 n
    let first := e + (digits.length - 1 : Nat)
    let body :=
      if layout.leastPositional ≤ first && first ≤ layout.greatestPositional then
        positional digits first
      else layout.scientific digits first
    sign ++ body

end NumeralLayout

end InfraDiagram

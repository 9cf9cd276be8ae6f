/-
# Decimal digits of a number

A positive rational is written on the grid of multiples of a power of ten.  Two choices of grid are
offered: the coarsest one that has a point which rounds back to the given floating point number, and
the one with a given count of digits.  The point chosen is the nearest one of its grid, a tie going
to the even point.
-/

import FormatLauncher.Binary64

namespace FormatLauncher.Decimal

/-- Digits without a point: `digits * 10 ^ exponent`. -/
structure Scientific where
  digits : Nat
  exponent : Int
  deriving DecidableEq, Repr

/-- The exponent `k` with `10 ^ k ≤ q < 10 ^ (k + 1)`, for positive rationals. -/
def decimalExponent (q : Rat) : Int :=
  let length (n : Nat) : Int := (Nat.toDigits 10 n).length
  let guess := length q.num.natAbs - length q.den
  if q < (10 : Rat) ^ guess then guess - 1 else guess

/-- The nearest point of the grid of multiples of `10 ^ exponent`, a tie going to the even one. -/
def nearest (q : Rat) (exponent : Int) : Nat :=
  let scaled := q / (10 : Rat) ^ exponent
  Binary64.roundHalfEven scaled.num.natAbs scaled.den

/-- The rationals that round to a finite positive number lie between two bounds, which belong to
them when the significand is even. -/
structure Interval where
  low : Rat
  high : Rat
  closed : Bool

/-- The rational lies in the interval. -/
def Interval.contains (i : Interval) (q : Rat) : Bool :=
  if i.closed then i.low ≤ q && q ≤ i.high else decide (i.low < q) && decide (q < i.high)

/-- The interval of `mantissa * 2 ^ exponent`.  Below a power of two the next number is only half
as far away. -/
def roundingInterval (mantissa : Nat) (exponent : Int) : Interval :=
  let quarter := (2 : Rat) ^ (exponent - 2)
  let below : Nat := if mantissa = Binary64.hiddenWeight ∧ -1074 < exponent then 1 else 2
  { low := (4 * (mantissa : Rat) - below) * quarter
    high := (4 * (mantissa : Rat) + 2) * quarter
    closed := mantissa % 2 = 0 }

/-- The point of the interval nearest to `q` on the first grid, from `exponent` down, that has a
neighbour of `q` in the interval. -/
def coarsest (i : Interval) (q : Rat) : (tries : Nat) → (exponent : Int) → Scientific
  | 0, exponent => ⟨nearest q exponent, exponent⟩
  | tries + 1, exponent =>
    let unit := (10 : Rat) ^ exponent
    let below := (q / unit).floor.toNat
    let near := nearest q exponent
    let far := if near = below then below + 1 else below
    if i.contains (near * unit) then ⟨near, exponent⟩
    else if i.contains (far * unit) then ⟨far, exponent⟩
    else coarsest i q tries (exponent - 1)

/-- Drop zeros at the end of the digits. -/
def Scientific.normalize (s : Scientific) : (fuel : Nat) → Scientific
  | 0 => s
  | fuel + 1 =>
    if s.digits ≠ 0 ∧ s.digits % 10 = 0 then
      Scientific.normalize ⟨s.digits / 10, s.exponent + 1⟩ fuel
    else s

/-- The fewest digits that round back to `mantissa * 2 ^ exponent`, for a positive mantissa.
Seventeen digits always do. -/
def shortest (mantissa : Nat) (exponent : Int) : Scientific :=
  let q : Rat := mantissa * (2 : Rat) ^ exponent
  let first := decimalExponent q
  (coarsest (roundingInterval mantissa exponent) q 17 first).normalize 400

/-- A given count of digits of a positive rational, the zeros at the end dropped. -/
def significant (count : Nat) (q : Rat) : Scientific :=
  let exponent := decimalExponent q - (count - 1 : Nat)
  (Scientific.mk (nearest q exponent) exponent).normalize (count + 1)

end FormatLauncher.Decimal

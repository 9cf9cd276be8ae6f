/-
# Floating point numbers of 64 bits

A number is its 64 bits.  Everything said about it goes through the value the bits stand for, an
exact rational, so comparison, arithmetic and rounding are those of the rationals and the results
are exact up to the one rounding at the end.  Rounding goes to the nearest number, a tie to the one
with the even significand, and past the largest number to infinity.
-/

namespace FormatLauncher

/-- A floating point number of 64 bits. -/
structure Binary64 where
  bits : UInt64
  deriving DecidableEq, Repr

namespace Binary64

/-- What the bits stand for.  A finite value is `mantissa * 2 ^ exponent`, with its sign kept apart
because zero has one too. -/
inductive View
  | nan
  | infinite (negative : Bool)
  | finite (negative : Bool) (mantissa : Nat) (exponent : Int)
  deriving DecidableEq, Repr

/-- The weight of the sign bit. -/
def signWeight : Nat := Nat.pow 2 63

/-- The weight of the lowest exponent bit; normal numbers leave out the significand bit of this
weight. -/
def hiddenWeight : Nat := Nat.pow 2 52

/-- The number of patterns of the exponent bits. -/
def exponentPatterns : Nat := Nat.pow 2 11

/-- The value behind the bits. -/
def view (x : Binary64) : View :=
  let n := x.bits.toNat
  let negative := decide (signWeight ≤ n)
  let biased : Nat := n / hiddenWeight % exponentPatterns
  let fraction : Nat := n % hiddenWeight
  if biased = 2047 then if fraction = 0 then .infinite negative else .nan
  else if biased = 0 then .finite negative fraction (-1074)
  else .finite negative (fraction + hiddenWeight) ((biased : Int) - 1075)

/-- The number with the given sign and the given remaining bits. -/
def ofMagnitude (negative : Bool) (magnitude : Nat) : Binary64 :=
  ⟨UInt64.ofNat (if negative then signWeight + magnitude else magnitude)⟩

/-- The remaining bits of an infinity. -/
def infiniteMagnitude : Nat := 2047 * hiddenWeight

/-- Infinity of either sign. -/
def infinity (negative : Bool) : Binary64 := ofMagnitude negative infiniteMagnitude

/-- The one number that is not a number. -/
def nan : Binary64 := ofMagnitude false (infiniteMagnitude + hiddenWeight / 2)

/-- Zero of either sign. -/
def zero (negative : Bool) : Binary64 := ofMagnitude negative 0

/-- A nonnegative quotient to the nearest integer, a tie to the even one. -/
def roundHalfEven (num den : Nat) : Nat :=
  let whole := num / den
  let twice := 2 * (num % den)
  if twice < den then whole
  else if den < twice then whole + 1
  else whole + whole % 2

/-- The exponent `k` with `2 ^ k ≤ num / den < 2 ^ (k + 1)`, for positive arguments. -/
def binaryExponent (num den : Nat) : Int :=
  let guess : Int := (Nat.log2 num : Int) - Nat.log2 den
  if 0 ≤ guess then if num < den * Nat.pow 2 guess.toNat then guess - 1 else guess
  else if num * Nat.pow 2 (-guess).toNat < den then guess - 1 else guess

/-- The number nearest to `num / den`, with the given sign.  The magnitude bits of a number grow by
one from each number to the next, so adding the rounded significand to the bits below it also
carries into the exponent when rounding reaches the next power of two. -/
def ofQuotient (negative : Bool) (num den : Nat) : Binary64 :=
  if num = 0 then zero negative
  else
    let exponent := max (binaryExponent num den - 52) (-1074)
    let significand :=
      if 0 ≤ exponent then roundHalfEven num (den * Nat.pow 2 exponent.toNat)
      else roundHalfEven (num * Nat.pow 2 (-exponent).toNat) den
    let magnitude := (exponent + 1074).toNat * hiddenWeight + significand
    ofMagnitude negative (min magnitude infiniteMagnitude)

/-- The number nearest to a rational; `negativeZero` is the sign of a zero result of zero. -/
def ofRat (negativeZero : Bool) (q : Rat) : Binary64 :=
  ofQuotient (if q = 0 then negativeZero else decide (q < 0)) q.num.natAbs q.den

/-- The number nearest to an integer. -/
def ofInt (n : Int) : Binary64 := ofRat false n

/-- The exact value of a finite number. -/
def toRat? (x : Binary64) : Option Rat :=
  match x.view with
  | .finite negative mantissa exponent =>
    let magnitude : Rat := mantissa * (2 : Rat) ^ exponent
    some (if negative then -magnitude else magnitude)
  | _ => none

/-- The sign bit is set. -/
def isNegative (x : Binary64) : Bool := decide (signWeight ≤ x.bits.toNat)

/-- The number is not a number. -/
def isNaN (x : Binary64) : Bool := x.view == .nan

/-- The number is zero, of either sign. -/
def isZero (x : Binary64) : Bool := x.toRat? == some 0

/-- The number is an infinity. -/
def isInfinite (x : Binary64) : Bool :=
  match x.view with
  | .infinite _ => true
  | _ => false

/-- The same magnitude with the other sign. -/
def negate (x : Binary64) : Binary64 := ofMagnitude (!x.isNegative) (x.bits.toNat % signWeight)

/-- The sum, rounded once. -/
def add (x y : Binary64) : Binary64 :=
  match x.toRat?, y.toRat? with
  | some p, some q => ofRat (x.isNegative && y.isNegative) (p + q)
  | none, some _ => x
  | some _, none => y
  | none, none => if x = y then x else nan

/-- The product, rounded once. -/
def mul (x y : Binary64) : Binary64 :=
  let negative := x.isNegative != y.isNegative
  match x.toRat?, y.toRat? with
  | some p, some q => ofRat negative (p * q)
  | none, none => if x.isNaN || y.isNaN then nan else infinity negative
  | none, some q => if x.isNaN || q = 0 then nan else infinity negative
  | some p, none => if y.isNaN || p = 0 then nan else infinity negative

end Binary64

/-- A number of either kind as a point of the extended line, for comparison between the kinds. -/
inductive ExtendedRat
  | negativeInfinity
  | finite (q : Rat)
  | positiveInfinity
  deriving DecidableEq

namespace ExtendedRat

/-- The order of the extended line, strict. -/
def lt : ExtendedRat → ExtendedRat → Bool
  | .finite p, .finite q => decide (p < q)
  | .negativeInfinity, .negativeInfinity => false
  | .negativeInfinity, _ => true
  | _, .positiveInfinity => true
  | _, _ => false

end ExtendedRat

/-- The point of a number, when it is one. -/
def Binary64.toExtended? (x : Binary64) : Option ExtendedRat :=
  match x.view with
  | .nan => none
  | .infinite true => some .negativeInfinity
  | .infinite false => some .positiveInfinity
  | .finite _ _ _ => x.toRat?.map .finite

end FormatLauncher

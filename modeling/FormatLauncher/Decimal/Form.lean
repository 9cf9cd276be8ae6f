/-
# Floating point numbers as text

Digits are written positionally when the exponent of the first digit lies in a window, and with an
exponent otherwise.  Two forms are used: the full one, which has as few digits as read back and
always shows that the number is not an integer, and the brief one with six digits.
-/

import FormatLauncher.Decimal.Shortest

namespace FormatLauncher.Decimal

/-- The choices a written form makes. -/
structure FloatForm where
  /-- The count of digits; none for as few as read back. -/
  count : Option Nat
  /-- The first exponent above the window of positional writing. -/
  above : Int
  /-- Whole numbers written positionally end in a point and a zero. -/
  marksWhole : Bool

/-- Positional below ten to the sixteenth, with as few digits as read back. -/
def fullForm : FloatForm := ⟨none, 16, true⟩

/-- Six digits, positional below a million. -/
def briefForm : FloatForm := ⟨some 6, 6, false⟩

/-- The window of positional writing starts here in both forms. -/
def lowestPositional : Int := -4

/-- The digits with the point after the first `whole` of them. -/
def positional (digits : List Char) (whole : Int) (marksWhole : Bool) : List Char :=
  if whole ≤ 0 then '0' :: '.' :: List.replicate (-whole).toNat '0' ++ digits
  else if digits.length ≤ whole.toNat then
    digits ++ List.replicate (whole.toNat - digits.length) '0'
      ++ (if marksWhole then ['.', '0'] else [])
  else digits.take whole.toNat ++ '.' :: digits.drop whole.toNat

/-- An exponent: its sign, and at least two digits. -/
def exponentText (e : Int) : List Char :=
  let digits := Nat.toDigits 10 e.natAbs
  (if e < 0 then '-' else '+') :: (if digits.length < 2 then '0' :: digits else digits)

/-- The digits with an exponent, the point after the first of them. -/
def withExponent (digits : List Char) (e : Int) : List Char :=
  let mantissa :=
    match digits with
    | [] => []
    | [d] => [d]
    | d :: rest => d :: '.' :: rest
  mantissa ++ 'e' :: exponentText e

/-- The digits in the given form. -/
def FloatForm.write (form : FloatForm) (s : Scientific) : List Char :=
  let digits := Nat.toDigits 10 s.digits
  let e : Int := s.exponent + digits.length - 1
  if s.digits = 0 then positional ['0'] 1 form.marksWhole
  else if lowestPositional ≤ e ∧ e < form.above then
    positional digits (e + 1) form.marksWhole
  else withExponent digits e

/-- The text of a number in the given form. -/
def FloatForm.render (form : FloatForm) (x : Binary64) : String :=
  match x.view with
  | .nan => "nan"
  | .infinite negative => if negative then "-inf" else "inf"
  | .finite negative mantissa exponent =>
    let s : Scientific :=
      if mantissa = 0 then ⟨0, 0⟩
      else
        match form.count with
        | none => shortest mantissa exponent
        | some count => significant count (mantissa * (2 : Rat) ^ exponent)
    String.ofList ((if negative then ['-'] else []) ++ form.write s)

end FormatLauncher.Decimal

/-- The text of a number with as few digits as read back. -/
def FormatLauncher.Binary64.toText (x : Binary64) : String :=
  Decimal.fullForm.render x

/-- The text of a number with at most six digits. -/
def FormatLauncher.Binary64.toBriefText (x : Binary64) : String :=
  Decimal.briefForm.render x

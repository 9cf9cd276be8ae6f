/-
# Time limits

A limit is a number of seconds, given as an integer, as a floating point number or as a truth value
that counts as one or zero; messages repeat it as it was given.  A limit that is zero, negative or
not a number is over at once.
-/

import FormatLauncher.Decimal.Form

namespace FormatLauncher

/-- A number of seconds. -/
inductive Seconds
  /-- One second or none. -/
  | flag (b : Bool)
  | whole (n : Int)
  | real (x : Binary64)
  deriving DecidableEq, Repr

namespace Seconds

/-- The limit as it was given. -/
def text : Seconds → String
  | .flag b => if b then "True" else "False"
  | .whole n => toString n
  | .real x => x.toText

/-- The floating point number of the limit; none when an integer is beyond the largest. -/
def toBinary? : Seconds → Option Binary64
  | .flag b => some (.ofInt (if b then 1 else 0))
  | .whole n => let x := Binary64.ofInt n; if x.isInfinite then none else some x
  | .real x => some x

/-- The limit, with nothing left of an integer below zero. -/
def notBelowZero : Seconds → Seconds
  | .whole n => .whole (max n 0)
  | s => s

/-- The limit with at most six digits. -/
def briefText (s : Seconds) : String :=
  match s.toBinary? with
  | some x => x.toBriefText
  | none => s.text

/-- The instant at which the limit is reached, counted from the start; none when it never is. -/
def instant? (s : Seconds) : Option Rat :=
  match s.notBelowZero.toBinary? with
  | none => none
  | some x =>
    match x.view with
    | .nan => some 0
    | .infinite negative => if negative then some 0 else none
    | .finite _ _ _ => x.toRat?.map fun q => if q < 0 then 0 else q

end Seconds

end FormatLauncher

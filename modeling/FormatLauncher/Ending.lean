/-
# How a run ends

A run that was started is waited for.  The wait sees the run complete, its time limit reached, a
request to cancel it, or its own cancellation; it may see several of these at once.  What it saw
decides how the run ends.  A run that did not complete is killed and reaped first, and only then is
the request to cancel looked at again.
-/

import FormatLauncher.Seconds

namespace FormatLauncher

/-- What the first wait for a run saw, and what happened until the killed run was reaped. -/
structure Watch where
  /-- The run completed. -/
  completed : Bool
  /-- The waiter was cancelled, during the wait or during the kill. -/
  waiterCancelled : Bool
  /-- Cancellation is requested when the killed run has been reaped. -/
  cancelRequested : Bool
  deriving DecidableEq, Repr

/-- How a run ends. -/
inductive Ending
  | output
  | waiterCancelled
  | cancelled
  | timedOut
  deriving DecidableEq, Repr

/-- The ending that follows from what was seen. -/
def Watch.ending (watch : Watch) : Ending :=
  if watch.completed then .output
  else if watch.waiterCancelled then .waiterCancelled
  else if watch.cancelRequested then .cancelled
  else .timedOut

/-- When a run's surroundings act, counted from its start; none for never. -/
structure Schedule where
  /-- Cancellation of the run is requested. -/
  cancelAt : Option Rat
  /-- The waiter is cancelled. -/
  abandonAt : Option Rat
  deriving Repr

/-- Nothing interferes. -/
def Schedule.quiet : Schedule := ⟨none, none⟩

/-- The earlier of two instants. -/
def earlier : Option Rat → Option Rat → Option Rat
  | some a, some b => some (if a ≤ b then a else b)
  | some a, none => some a
  | none, b => b

/-- The instant has come. -/
def reached (instant : Option Rat) (now : Rat) : Bool :=
  match instant with
  | some moment => moment ≤ now
  | none => false

/-- What the wait for a run sees.  A run that completes does so after everything that happens at the
start and before everything that happens later.  None when nothing ever ends the wait. -/
def Schedule.watch? (schedule : Schedule) (limit : Option Seconds) (completes : Bool) :
    Option Watch :=
  let limitAt := limit.bind Seconds.instant?
  match earlier limitAt (earlier schedule.cancelAt schedule.abandonAt) with
  | none => if completes then some ⟨true, false, false⟩ else none
  | some now =>
    if completes && decide (0 < now) then some ⟨true, false, false⟩
    else
      let interrupted := reached limitAt now || reached schedule.cancelAt now
      some ⟨false, !interrupted, reached schedule.cancelAt now⟩

end FormatLauncher

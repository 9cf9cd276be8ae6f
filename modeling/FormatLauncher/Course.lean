/-
# The course of a run

A run that was started goes through stages.  First the waiter waits for the output to be complete,
for the time limit and for the event that requests a cancellation, all at once.  When the wait is
over and the output is not complete, or when the waiter itself is cancelled, the program is killed,
its end is waited for, and the reading of its output is called off.  Only then is the event looked
at, and the run is over.  In which order the program ends, the limit is reached, the event is set
and cleared, and the waiter is cancelled and goes on is left open.
-/

import FormatLauncher.Ending
import FormatLauncher.Failure

namespace FormatLauncher

/-- How far a run has come. -/
inductive Stage
  /-- The wait cannot begin, for the limit is beyond the largest floating point number. -/
  | refused
  /-- The first wait: for the output, the limit and the event. -/
  | waiting
  /-- The program was killed, and its end is waited for. -/
  | reaping
  /-- The program has ended, and the reading of its output is called off. -/
  | draining
  | over (watch : Watch)
  deriving DecidableEq, Repr

/-- A run that was started, and what has happened to it so far. -/
structure Course where
  limit : Option Seconds
  stage : Stage
  /-- The program has ended. -/
  ended : Bool
  /-- The program was killed. -/
  killed : Bool
  /-- The output has been read to its end. -/
  read : Bool
  /-- The limit was reached during the first wait. -/
  expired : Bool
  /-- The event is set. -/
  requested : Bool
  /-- The event was set before the end of the first wait. -/
  asked : Bool
  /-- The first wait was told of the event. -/
  noticed : Bool
  /-- The first wait reported the output. -/
  sawOutput : Bool
  /-- The waiter was cancelled during the first wait. -/
  interrupted : Bool
  /-- The waiter was cancelled while it waited for the end of the killed program. -/
  interruptedReaping : Bool
  /-- The waiter was cancelled while it called off the reading. -/
  interruptedDraining : Bool
  deriving DecidableEq, Repr

namespace Course

/-- What can happen to a run. -/
inductive Event
  /-- The program ends, by itself or because it was killed. -/
  | exit
  /-- The last of the output is read, if the program has ended. -/
  | read
  /-- The limit is reached, if it is one that can be. -/
  | expire
  /-- The event is set. -/
  | request
  /-- The event is cleared. -/
  | withdraw
  /-- The first wait is told of the event, if it was set. -/
  | notice
  /-- The waiter is cancelled. -/
  | interrupt
  /-- The waiter goes on, if what it waits for has come. -/
  | resume
  deriving DecidableEq, Repr

/-- A run that has just been started. -/
def start (limit : Option Seconds) : Course where
  limit
  stage := if limit.any fun s => s.toBinary?.isNone then .refused else .waiting
  ended := false
  killed := false
  read := false
  expired := false
  requested := false
  asked := false
  noticed := false
  sawOutput := false
  interrupted := false
  interruptedReaping := false
  interruptedDraining := false

/-- Nothing more happens to the run. -/
def isOver (c : Course) : Bool :=
  match c.stage with
  | .refused | .over _ => true
  | _ => false

/-- What decides how the run ends if it ends now. -/
def watch (c : Course) : Watch :=
  ⟨c.sawOutput, c.interrupted || c.interruptedReaping, c.requested⟩

/-- The run ends. -/
def finish (c : Course) : Course := { c with stage := .over c.watch }

/-- Call off the reading, which takes no time when all has been read. -/
def drain (c : Course) : Course := if c.read then c.finish else { c with stage := .draining }

/-- Kill the program, unless it has ended. -/
def kill (c : Course) : Course :=
  if c.ended then c.drain else { c with stage := .reaping, killed := true }

/-- The waiter goes on, if what it waits for has come.  A cancellation of the waiter comes before
anything that it waits for, except while it calls off the reading: there it cannot be told from the
calling off and is lost. -/
def goOn (c : Course) : Course :=
  match c.stage with
  | .waiting =>
    if c.interrupted then c.kill
    else if c.read then finish { c with sawOutput := true }
    else if c.expired || c.noticed then c.kill
    else c
  | .reaping =>
    if c.interruptedReaping then c.finish
    else if c.ended then c.drain
    else c
  | .draining => c.finish
  | .refused | .over _ => c

/-- The waiter is cancelled, in whatever it waits for. -/
def interrupt (c : Course) : Course :=
  { c with
    interrupted := c.interrupted || c.stage == .waiting
    interruptedReaping := c.interruptedReaping || c.stage == .reaping
    interruptedDraining := c.interruptedDraining || c.stage == .draining }

/-- What an event does. -/
def step (c : Course) (event : Event) : Course :=
  if c.isOver then c
  else
    match event with
    | .exit => { c with ended := true }
    | .read => if c.ended && c.stage != .draining then { c with read := true } else c
    | .expire =>
      if c.stage == .waiting && (c.limit.bind Seconds.instant?).isSome then
        { c with expired := true }
      else c
    | .request => { c with requested := true, asked := c.asked || c.stage == .waiting }
    | .withdraw => { c with requested := false }
    | .notice => if c.stage == .waiting && c.asked then { c with noticed := true } else c
    | .interrupt => c.interrupt
    | .resume => c.goOn

/-- What events do, one after the other. -/
def run (c : Course) (events : List Event) : Course := events.foldl step c

/-- What whoever started the run of a command is answered, once it is over; the output itself is
left out.  A run that is said to be out of time without a limit has no number to say. -/
def answer? (c : Course) (command : String) : Option (Except Failure Unit) :=
  match c.stage with
  | .refused => some (.error .numberTooLarge)
  | .over watch =>
    match watch.ending, c.limit with
    | .output, _ => some (.ok ())
    | .waiterCancelled, _ => some (.error .waiterCancelled)
    | .cancelled, _ => some (.error (.cancelled command))
    | .timedOut, some limit => some (.error (.timedOut command limit))
    | .timedOut, none => some (.error .wrongKind)
  | _ => none

end Course

/-- What happens to a run on a schedule.  Of what comes at one instant the limit and the request
come before the cancellation of the waiter, and the wait is over before that. -/
def Schedule.events (schedule : Schedule) (limit : Option Seconds) (completes : Bool) :
    List Course.Event :=
  let limitAt := limit.bind Seconds.instant?
  match earlier limitAt (earlier schedule.cancelAt schedule.abandonAt) with
  | none => if completes then [.exit, .read, .resume] else []
  | some now =>
    if completes && decide (0 < now) then [.exit, .read, .resume]
    else
      let expires := if reached limitAt now then [.expire] else []
      let requests := if reached schedule.cancelAt now then [.request, .notice] else []
      let seen := if expires ++ requests = [] then [.interrupt] else expires ++ requests
      seen ++ [.resume, .exit, .resume, .resume]

end FormatLauncher

/-
# Locating the formatter

Locating picks a command, checks its file, and asks the file for its version.  It answers with the
absolute path and whether the formatter is there; not being there is an answer and not a failure.
-/

import FormatLauncher.Ending
import FormatLauncher.Locator.Candidate
import FormatLauncher.Settings.Basic

namespace FormatLauncher.Locator

/-- Where the formatter is, and whether it can run. -/
structure Resolved where
  path : String
  isAvailable : Bool
  deriving DecidableEq, Repr

/-- What is to be located. -/
structure Query where
  configured : Option String
  context : Placeholder.Context
  interpreter : Option (List String)
  /-- None for the usual formatter. -/
  tool : Option Tool
  strict : Bool
  deriving Repr

/-- The tool of a query. -/
def Query.toolOrUsual (q : Query) : Tool := q.tool.getD Tool.sqlfmt

/-- The limit for a version query that is used when none is given. -/
def usualLimit : Seconds := .real Settings.defaultProbeLimit

/-- Start a program with a limit, and see how it ends; a failure when nothing ends it.  The files a
program leaves count only when it was left to complete.  A limit beyond the largest floating point
number is noticed only when the program has been started, and nobody waits for it then. -/
def supervise (ready : Launch.Ready) (input : Text.Bytes) (limit : Option Seconds)
    (schedule : Schedule) : Action (Ending × Option Finish) := do
  if (limit.any fun s => s.toBinary?.isNone) then
    Action.recordRun ⟨ready.command, ready.directory, ready.arguments, false⟩
    throw .numberTooLarge
  let w ← get
  let finish := ready.program ⟨ready.directory, ready.arguments, input⟩ w.files
  match schedule.watch? limit finish.isSome with
  | none =>
    Action.recordRun ⟨ready.command, ready.directory, ready.arguments, false⟩
    throw .unending
  | some watch =>
    Action.recordRun ⟨ready.command, ready.directory, ready.arguments, watch.completed⟩
    if watch.completed then
      if let some finish := finish then
        Action.changeFiles fun _ => finish.files
        return (watch.ending, some finish)
    return (watch.ending, none)

/-- Start a file with harmless arguments; none, and a record in the log, when the system refuses. -/
def startProbe (path : String) (arguments : List String) : Action (Option Launch.Ready) := do
  match Launch.start (← get) path arguments none with
  | .error .embeddedNul => throw .embeddedNul
  | .error (.system cause) =>
    Action.say .debug ("Liveness probe could not start " ++ path ++ ": " ++ cause.message)
    return none
  | .ok ready => return some ready

/-- A limit in a message; an integer can have too many digits to be written. -/
def limitText : Option Seconds → Except Failure String
  | none => .ok ""
  | some (.whole n) => Settings.shown (Value.integerText? n)
  | some s => .ok s.text

/-- Run a file with harmless arguments and see whether it ends well in time.  The wait asks first
whether the time is over, so an integer below zero is never too large for it. -/
def probe (path : String) (arguments : List String) (limit : Option Seconds)
    (schedule : Schedule) : Action Bool := do
  match ← startProbe path arguments with
  | none => return false
  | some ready =>
    -- A request to cancel is for the formatter's run, never for its version query.
    match ← supervise ready [] (limit.map Seconds.notBelowZero)
      { schedule with cancelAt := none } with
    | (.waiterCancelled, _) => throw .waiterCancelled
    | (.output, some finish) =>
      if finish.code ≠ 0 then
        Action.say .debug
          ("Liveness probe for " ++ path ++ " exited with code " ++ toString finish.code)
      return finish.code = 0
    | _ =>
      let shown ← Action.ofExcept (limitText limit)
      Action.say .warning ("Liveness probe for " ++ path ++ " timed out after " ++ shown ++ "s")
      return false

/-- Pick the command of a query and check its file; nothing is run. -/
def inspect (q : Query) : Action (String × Bool) := do
  let command ← candidate q.configured q.context q.interpreter q.toolOrUsual q.strict
  check .slash command

/-- Say what came of locating. -/
def report (q : Query) (resolved : Resolved) : Action Unit :=
  if resolved.isAvailable then
    Action.say .debug ("Using " ++ q.toolOrUsual.name ++ " at " ++ resolved.path)
  else Action.say .info ("\"" ++ resolved.path ++ "\" is not available")

/-- Locate the formatter. -/
def locate (q : Query) (limit : Option Seconds) (schedule : Schedule) : Action Resolved := do
  let (path, passes) ← inspect q
  let available ←
    if passes then probe path q.toolOrUsual.versionArguments limit schedule else pure false
  let resolved : Resolved := ⟨path, available⟩
  report q resolved
  return resolved

end FormatLauncher.Locator

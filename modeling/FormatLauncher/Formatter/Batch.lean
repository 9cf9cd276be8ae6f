/-
# Batches

The files of a batch are formatted side by side.  Every file is read and planned before anything is
run; then each distinct query is located once; then the formatter runs for every file, and what
changed is written back.  Failures that a batch collects belong to their file and stop no other.
Any other failure ends the batch: one met while planning does so before anything is run to its end.
-/

import FormatLauncher.Formatter.Request
import FormatLauncher.Locator.Cache

namespace FormatLauncher.Formatter

/-- What came of one file of a batch. -/
structure FileResult where
  file : Path
  /-- Whether formatting changes the file, or why it was not formatted. -/
  outcome : Except Failure Bool

/-- The result counts as a success. -/
def FileResult.isOk (r : FileResult) : Bool := r.outcome.toOption.isSome

/-- Formatting changes the file. -/
def FileResult.isChanged (r : FileResult) : Bool := r.outcome.toOption.getD false

/-- A file that was read and planned. -/
structure Draft where
  text : String
  plan : Plan

/-- Read and plan a file. -/
def draft (f : Formatter) (file : Path) : Action Draft := do
  let text ← Action.ofExcept (readText (← get) file)
  announce file.text
  let folder ← f.folderFor (some file)
  return ⟨text, ← f.plan folder⟩

/-- Format a planned file whose command was located. -/
def finish (f : Formatter) (file : Path) (draft : Draft) (located : Locator.Outcome) (write : Bool)
    (schedule : Schedule) : Action Bool := do
  let resolved ← Action.ofExcept located
  let invocation ← f.invocation draft.plan resolved
  let after ← Execution.asFilter invocation.command invocation.arguments draft.text
    (f.terms invocation schedule)
  writeBack file draft.text after write

/-- Do an action for a file; a failure that a batch collects is logged. -/
def collecting {α : Type} (file : Path) (action : Action α) : Action (Except Failure α) := do
  let outcome ← Action.attempt action
  if let .error failure := outcome then
    if failure.isCollected then
      Action.say .debug (file.text ++ ": " ++ failure.kindName ++ ": " ++ failure.message)
  return outcome

/-- The failure of an outcome, if it is one that a batch does not collect. -/
def escaping? {α : Type} : Except Failure α → Option Failure
  | .error failure => if failure.isCollected then none else some failure
  | .ok _ => none

/-- What comes of a query in a batch that ends before anything is run to its end: a version query
that was started is ended. -/
def abandon (q : Locator.Query) : Action Locator.Outcome :=
  Action.attempt do
    let (path, passes) ← Locator.inspect q
    if passes then
      if let some ready ← Locator.startProbe path q.toolOrUsual.versionArguments then
        Action.recordRun ⟨ready.command, ready.directory, ready.arguments, false⟩
        throw .waiterCancelled
    let resolved : Locator.Resolved := ⟨path, false⟩
    Locator.report q resolved
    return resolved

/-- Abandon the queries of planned files, each distinct one once. -/
def abandonAll (f : Formatter) :
    (seen : List (Locator.Key × Locator.Outcome)) → List (Path × Draft) → Action Unit
  | _, [] => pure ()
  | seen, (file, draft) :: rest => do
    let q := draft.plan.query
    let outcome ← match seen.lookup q.key with
      | some outcome => pure outcome
      | none => abandon q
    let _ ← collecting file do
      f.invocation draft.plan (← Action.ofExcept outcome)
    abandonAll f ((q.key, outcome) :: seen) rest

/-- The files that were planned. -/
def planned (drafts : List (Path × Except Failure Draft)) : List (Path × Draft) :=
  drafts.filterMap fun (file, draft) => draft.toOption.map fun d => (file, d)

/-- Format the planned files whose queries were located, in order; a file that could not be planned
keeps its failure. -/
def finishAll (f : Formatter) (write : Bool) (schedule : Schedule) :
    List (Path × Except Failure Draft) → List Locator.Outcome → Action (List FileResult)
  | (file, .ok draft) :: rest, located :: more => do
    let outcome ← collecting file (f.finish file draft located write schedule)
    return ⟨file, outcome⟩ :: (← finishAll f write schedule rest more)
  | (file, .error failure) :: rest, located => do
    return ⟨file, .error failure⟩ :: (← finishAll f write schedule rest located)
  | _, _ => return []

/-- Format files side by side; the results are in the order of the files. -/
def formatFiles (f : Formatter) (files : List Path) (write : Bool) (schedule : Schedule) :
    Action (List FileResult) := do
  let drafts ← files.mapM fun file => do return (file, ← collecting file (f.draft file))
  if let some failure := drafts.findSome? fun (_, draft) => escaping? draft then
    f.abandonAll [] (planned drafts)
    throw failure
  let queries := (planned drafts).map fun (_, draft) => draft.plan.query
  let (located, _) ← Locator.Cache.empty.locateAll f.probeLimit schedule queries
  let results ← f.finishAll write schedule drafts located
  if let some failure := results.findSome? fun r => escaping? r.outcome then
    throw failure
  return results

end FormatLauncher.Formatter

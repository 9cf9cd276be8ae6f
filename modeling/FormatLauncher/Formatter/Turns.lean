/-
# Taking turns

The files of a batch are formatted side by side.  Every file is read and planned before anything is
run.  From then on the tasks of the batch take turns: a query is located, the formatter is run for a
file, or what it printed for a file is written back.  In which order they come is left open; a file
only waits for its query to be located, and for its own run to end.  A turn that nothing is ready
for changes nothing.
-/

import FormatLauncher.Formatter.Batch

namespace FormatLauncher.Formatter

/-- How far a file of a batch is. -/
inductive Stage
  /-- The file was read and planned. -/
  | planned (draft : Draft)
  /-- The formatter printed a text for the text of the file. -/
  | printed (before after : String)
  /-- The file is done. -/
  | settled (outcome : Except Failure Bool)

/-- A batch on its way: what was located for it, and its files in the order in which they were
given. -/
structure Progress where
  cache : Locator.Cache
  stages : List (Path × Stage)

/-- What happens next in a batch. -/
inductive Turn
  /-- The query of a planned file is located, unless it was before. -/
  | locate (n : Nat)
  /-- The formatter is run for a planned file. -/
  | print (n : Nat)
  /-- What was printed for a file is written back. -/
  | write (n : Nat)
  deriving DecidableEq, Repr

/-- The stage of a file that was read and planned, or could not be. -/
def Stage.ofDraft : Except Failure Draft → Stage
  | .ok draft => .planned draft
  | .error failure => .settled (.error failure)

/-- The stages of files that were read and planned, or could not be. -/
def stagesOf (drafts : List (Path × Except Failure Draft)) : List (Path × Stage) :=
  drafts.map fun (file, draft) => (file, .ofDraft draft)

/-- A batch of which nothing was run. -/
def Progress.start (drafts : List (Path × Except Failure Draft)) : Progress :=
  ⟨.empty, stagesOf drafts⟩

/-- A file comes to another stage. -/
def Progress.put (progress : Progress) (n : Nat) (file : Path) (stage : Stage) : Progress :=
  { progress with stages := progress.stages.set n (file, stage) }

/-- Run the formatter for a planned file whose command was located. -/
def print (f : Formatter) (draft : Draft) (located : Locator.Outcome) (schedule : Schedule) :
    Action String := do
  let resolved ← Action.ofExcept located
  let invocation ← f.invocation draft.plan resolved
  Execution.asFilter invocation.command invocation.arguments draft.text
    (f.terms invocation schedule)

/-- The stage of a file that the formatter was run for. -/
def Stage.ofPrinted (before : String) : Except Failure String → Stage
  | .ok after => .printed before after
  | .error failure => .settled (.error failure)

/-- Take one turn. -/
def takeTurn (f : Formatter) (write : Bool) (schedule : Schedule) (progress : Progress) :
    Turn → Action Progress
  | .locate n =>
    match progress.stages[n]? with
    | some (_, .planned draft) => do
      let (_, cache) ← progress.cache.locate draft.plan.query f.probeLimit schedule
      return { progress with cache }
    | _ => pure progress
  | .print n =>
    match progress.stages[n]? with
    | some (file, .planned draft) =>
      match progress.cache.outcome? draft.plan.query.key with
      | some located => do
        let printed ← collecting file (f.print draft located schedule)
        return progress.put n file (.ofPrinted draft.text printed)
      | none => pure progress
    | _ => pure progress
  | .write n =>
    match progress.stages[n]? with
    | some (file, .printed before after) => do
      let outcome ← collecting file (writeBack file before after write)
      return progress.put n file (.settled outcome)
    | _ => pure progress

/-- Take turns, one after the other. -/
def takeTurns (f : Formatter) (write : Bool) (schedule : Schedule) :
    Progress → List Turn → Action Progress
  | progress, [] => pure progress
  | progress, turn :: rest => do
    takeTurns f write schedule (← f.takeTurn write schedule progress turn) rest

/-- Read and plan files.  A batch that cannot be planned ends before anything is run to its end. -/
def planFiles (f : Formatter) (files : List Path) : Action Progress := do
  let drafts ← files.mapM fun file => do return (file, ← collecting file (f.draft file))
  if let some failure := drafts.findSome? fun (_, draft) => escaping? draft then
    f.abandonAll [] (planned drafts)
    throw failure
  return .start drafts

/-- The result of a file that is done. -/
def Stage.result? (file : Path) : Stage → Option FileResult
  | .settled outcome => some ⟨file, outcome⟩
  | _ => none

/-- The results of a batch whose files are all done. -/
def Progress.results? (progress : Progress) : Option (List FileResult) :=
  progress.stages.mapM fun (file, stage) => stage.result? file

/-- Format files side by side, in these turns; none if some file is not done after them. -/
def formatFilesInTurns (f : Formatter) (files : List Path) (turns : List Turn) (write : Bool)
    (schedule : Schedule) : Action (Option (List FileResult)) := do
  let progress ← f.planFiles files
  let progress ← f.takeTurns write schedule progress turns
  match progress.results? with
  | none => return none
  | some results =>
    if let some failure := results.findSome? fun r => escaping? r.outcome then
      throw failure
    return some results

/-- The turns of a batch of so many files that is worked off in order. -/
def turnsInOrder (n : Nat) : List Turn :=
  (List.range n).map .locate ++ (List.range n).flatMap fun i => [.print i, .write i]

end FormatLauncher.Formatter

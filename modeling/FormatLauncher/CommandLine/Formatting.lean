/-
# Commands that format

Files are formatted one by one or handed to the formatter; a dash stands for the input, whose
formatted text is printed.  A failure is logged with its kind and shown in one message.  Files that
fail are reported one after the other, but a formatter that is missing for all of them only once.
-/

import FormatLauncher.CommandLine.Session
import FormatLauncher.CommandLine.Task
import FormatLauncher.ConfigFile
import FormatLauncher.Formatter.Batch

namespace FormatLauncher.CommandLine

/-- Everything a command starts from. -/
structure Setup where
  general : General
  config : Entries
  settings : Settings
  /-- The text on the input. -/
  input : String

namespace Setup

/-- The formatter for a tool. -/
def formatter (s : Setup) (tool : Tool) : Session Formatter :=
  let interpreters := match s.general.interpreter.filter (· ≠ "") with
    | some path => Interpreter.Source.given [path]
    | none => .discovered
  Session.perform do Action.ofExcept (Formatter.make (← get) s.settings interpreters tool)

end Setup

/-- Log a failure and show it. -/
def report (failure : Failure) : Session Unit := do
  Session.perform (Action.say .error (failure.kindName ++ ": " ++ failure.message))
  Session.printError failure.describe

/-- Do an action; a failure of the formatter is reported and ends the session. -/
def orReport {α : Type} (action : Action α) : Session α := do
  match ← Session.attempt action with
  | .ok value => return value
  | .error failure =>
    if failure.isFormatting then
      report failure
      Session.exit 1
    else throw (.failed failure)

/-- The argument that stands for the input. -/
def inputMark : String := "-"

/-- End the session because options do not go together. -/
def refuse {α : Type} (reason : String) : Session α := do
  Session.printError ("Error: " ++ reason)
  Session.exit 1

/-- Format the input and print it. -/
def formatInput (f : Formatter) (input : String) (inputName : Option String) : Session Unit := do
  let formatted ← orReport (f.formatText input inputName .quiet)
  Session.print formatted

/-- Let the formatter change files. -/
def formatInPlace (f : Formatter) (files : List String) : Session Unit := do
  let _ ← orReport (f.formatInPlace (files.map Path.parse) .quiet)
  Session.printLine ("✓ Formatted " ++ toString files.length ++ " path(s)")

/-- Show what came of one file. -/
def showResult (check : Bool) (result : Formatter.FileResult) : Session Unit := do
  match result.outcome with
  | .error failure =>
    Session.printError ("✗ " ++ result.file.text)
    report failure
  | .ok true =>
    Session.printLine ((if check then "Would reformat " else "✓ Reformatted ") ++ result.file.text)
  | .ok false => pure ()

/-- The failure is that the formatter is missing. -/
def isMissingFormatter : Failure → Bool
  | .notInstalled _ _ => true
  | _ => false

/-- The failures for a missing formatter. -/
def missingFormatters (results : List Formatter.FileResult) : List Failure :=
  results.filterMap fun r => match r.outcome with
    | .error failure => if isMissingFormatter failure then some failure else none
    | .ok _ => none

/-- The counts of a batch in words. -/
def summary (check : Bool) (results : List Formatter.FileResult) : String :=
  let changed := results.countP (·.isChanged)
  let failed := results.countP fun r => !r.isOk
  let verb := if check then "would be reformatted" else "reformatted"
  toString changed ++ " file(s) " ++ verb ++ ", " ++ toString (results.length - changed - failed)
    ++ " unchanged, " ++ toString failed ++ " failed"

/-- The exit code of a batch: a failure, or a change that was only to be reported. -/
def batchCode (check : Bool) (results : List Formatter.FileResult) : Nat :=
  if results.any fun r => !r.isOk || (check && r.isChanged) then 1 else 0

/-- Show the results of a batch. -/
def showResults (check : Bool) (results : List Formatter.FileResult) : Session Unit := do
  let missing := missingFormatters results
  if missing.length = results.length then
    if let first :: _ := missing then
      report first
      Session.exit 1
  for result in results do
    showResult check result
  Session.printLine (summary check results)
  if batchCode check results ≠ 0 then
    Session.exit (batchCode check results)

/-- Format files one by one. -/
def formatFiles (f : Formatter) (files : List String) (check : Bool) : Session Unit := do
  let results ← Session.perform (f.formatFiles (files.map Path.parse) (!check) .quiet)
  showResults check results

/-- Format as the arguments ask. -/
def format (s : Setup) (task : FormatTask) : Session Unit := do
  let f ← s.formatter Tool.sqlfmt
  if task.files.contains inputMark then
    if 1 < task.files.length then
      refuse "'-' cannot be combined with other paths"
    if task.check then
      refuse "--check cannot be combined with stdin"
    formatInput f s.input task.inputName
  else if task.inPlace then
    if task.check then
      refuse "--check cannot be combined with --in-place"
    formatInPlace f task.files
  else
    formatFiles f task.files task.check

/-- Let the formatter change a workspace. -/
def formatWorkspace (s : Setup) (root : Option String) : Session Unit := do
  let f ← s.formatter Tool.sqlfmt
  let _ ← orReport (f.formatWorkspace root .quiet)
  Session.printLine "✓ Workspace formatted"

end FormatLauncher.CommandLine

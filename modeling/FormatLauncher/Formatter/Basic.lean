/-
# The formatter

A formatter is made from settings, a workspace and a way to find interpreters.  A request first
picks a workspace folder, then expands the arguments, then locates the command, and only then runs
it.  Every request starts from scratch.
-/

import FormatLauncher.Contents
import FormatLauncher.Execution
import FormatLauncher.Interpreter
import FormatLauncher.Workspace

namespace FormatLauncher

/-- What requests are made with. -/
structure Formatter where
  settings : Settings
  workspace : Workspace
  interpreters : Interpreter.Source
  /-- The environment for placeholders and interpreters; none for the world's own. -/
  environment : Option Bindings
  tool : Tool
  deriving Repr

/-- What is to be run: a command, its arguments and the directory to run in. -/
structure Invocation where
  command : String
  arguments : List String
  directory : Option String
  deriving DecidableEq, Repr

namespace Formatter

/-- A formatter for settings, with the workspace that they describe. -/
def make (w : World) (settings : Settings) (interpreters : Interpreter.Source)
    (tool : Tool) : Except Failure Formatter :=
  (Workspace.ofPaths w settings.workspace settings.folders).map fun workspace =>
    ⟨settings, workspace, interpreters, none, tool⟩

/-- The limit of the formatter's runs. -/
def limit (f : Formatter) : Option Seconds := f.settings.limit.map .real

/-- The limit of version queries. -/
def probeLimit (f : Formatter) : Option Seconds := f.settings.probeLimit.map .real

/-- What a request for a folder knows: the context of placeholders and the interpreters.  An empty
list of interpreters is as good as none. -/
def surroundings (f : Formatter) (folder : Option Folder) :
    Action (Placeholder.Context × Option (List String)) := do
  let w ← get
  let environment := f.environment.getD w.environment
  let interpreters ←
    f.interpreters.find (folder.map fun folder => .ofLocation folder.place) environment
  let current ← Action.ofExcept w.directory.named
  let context : Placeholder.Context := {
    environment
    directory := current.text
    root := folder.map (·.place.text)
    folders := f.workspace.folderTexts }
  return (context, if interpreters = [] then none else some interpreters)

/-- The query for the formatter's command. -/
def query (f : Formatter) (context : Placeholder.Context) (interpreter : Option (List String))
    (strict : Bool) : Locator.Query :=
  ⟨f.settings.path, context, interpreter, some f.tool, strict⟩

/-- Locate the command for a folder; that it is not there is an answer. -/
def resolveCommand (f : Formatter) (folder : Option Folder) (schedule : Schedule) :
    Action Locator.Resolved := do
  let (context, interpreter) ← f.surroundings folder
  Locator.locate (f.query context interpreter false) f.probeLimit schedule

/-- What a request needs before it can locate: its arguments and its query. -/
structure Plan where
  folder : Option Folder
  arguments : List String
  query : Locator.Query
  deriving Repr

/-- The plan for a folder. -/
def plan (f : Formatter) (folder : Option Folder) : Action Plan := do
  let strict := f.settings.strict
  let (context, interpreter) ← f.surroundings folder
  let arguments ← Placeholder.resolve f.settings.arguments context interpreter strict
  return ⟨folder, arguments, f.query context interpreter strict⟩

/-- The invocation of a plan whose command was located. -/
def invocation (f : Formatter) (plan : Plan) (resolved : Locator.Resolved) :
    Action Invocation := do
  if resolved.isAvailable then
    return ⟨resolved.path, plan.arguments, plan.folder.map (·.place.text)⟩
  Action.say .error ("\"" ++ resolved.path ++ "\" is not installed or cannot be executed")
  throw (.notInstalled resolved.path f.tool.installHint)

/-- The invocation for a folder. -/
def prepare (f : Formatter) (folder : Option Folder) (schedule : Schedule) :
    Action Invocation := do
  let plan ← f.plan folder
  let resolved ← Locator.locate plan.query f.probeLimit schedule
  f.invocation plan resolved

/-- The terms of a run of the formatter. -/
def terms (f : Formatter) (invocation : Invocation) (schedule : Schedule) : Execution.Terms :=
  ⟨invocation.directory, f.limit, schedule⟩

/-- The workspace folder of a document. -/
def folderFor (f : Formatter) (document : Option Path) : Action (Option Folder) := do
  Action.ofExcept (f.workspace.folderFor (← get) document)

end Formatter

end FormatLauncher

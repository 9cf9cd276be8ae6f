/-
# Requests

A text is formatted by running the formatter as a filter; a file is read, formatted as a text and
written back when it changed.  Files and whole workspaces can also be left to the formatter itself.
-/

import FormatLauncher.Formatter.Basic

namespace FormatLauncher.Formatter

/-- The name of a document that is no file. -/
def inputName : String := "<stdin>"

/-- Announce a document. -/
def announce (name : String) : Action Unit :=
  Action.say .info ("Formatting \"" ++ name ++ "\" file")

/-- Format a text; the document says to which folder it belongs. -/
def formatText (f : Formatter) (text : String) (document : Option String) (schedule : Schedule) :
    Action String := do
  announce (document.getD inputName)
  let folder ← f.folderFor (document.map Path.parse)
  let invocation ← f.prepare folder schedule
  Execution.asFilter invocation.command invocation.arguments text (f.terms invocation schedule)

/-- The text of a file. -/
def readText (w : World) (file : Path) : Except Failure String :=
  match Contents.read w file with
  | .error failure => .error failure
  | .ok bytes =>
    match Text.Utf8.decode bytes with
    | .ok text => .ok text
    | .error e => .error (.undecodable e)

/-- Write a formatted text back if it differs and is to be written; the answer says whether it
differs. -/
def writeBack (file : Path) (before after : String) (write : Bool) : Action Bool := do
  if after = before then
    return false
  if write then
    let outcome := Contents.write (← get) file (Text.Utf8.encode after)
    Action.changeFiles fun _ => outcome.2
    Action.ofExcept outcome.1
    Action.say .info ("Reformatted " ++ file.text)
  else
    Action.say .info ("Would reformat " ++ file.text)
  return true

/-- Format a file; the answer says whether formatting changes it. -/
def formatFile (f : Formatter) (file : Path) (write : Bool) (schedule : Schedule) :
    Action Bool := do
  let before ← Action.ofExcept (readText (← get) file)
  let after ← f.formatText before (some file.text) schedule
  writeBack file before after write

/-- Let the formatter change files. -/
def formatInPlace (f : Formatter) (files : List Path) (schedule : Schedule) :
    Action Execution.Output := do
  match files with
  | [] => throw (.configuration .noPaths)
  | first :: _ =>
    for file in files do
      announce file.text
    let folder ← f.folderFor (some first)
    let invocation ← f.prepare folder schedule
    Execution.inPlace invocation.command invocation.arguments (files.map Path.text)
      (f.terms invocation schedule)

/-- The root of a workspace request: the one that is asked for, or the configured one. -/
def workspaceRoot (f : Formatter) (w : World) : (asked : Option String) → Except Failure Location
  | some spelling => Workspace.expand w spelling
  | none =>
    match f.workspace.root with
    | some root => .ok root
    | none => .error (.configuration .noWorkspace)

/-- The folder of a workspace's root: the one at the root, or else the root under its own name. -/
def rootFolder (root : Location) (folder : Option Folder) : Folder :=
  match folder with
  | some folder => if folder.place = root then folder else ⟨root.getLast?.getD "", root⟩
  | none => ⟨root.getLast?.getD "", root⟩

/-- Let the formatter change a whole workspace. -/
def formatWorkspace (f : Formatter) (asked : Option String) (schedule : Schedule) :
    Action Execution.Output := do
  let root ← Action.ofExcept (f.workspaceRoot (← get) asked)
  let found ← f.folderFor (some (Path.ofLocation root))
  let folder := rootFolder root found
  Action.say .info ("Formatting \"" ++ folder.name ++ "\" workspace")
  let invocation ← f.prepare (some folder) schedule
  Execution.inPlace invocation.command invocation.arguments [folder.place.text]
    (f.terms invocation schedule)

end FormatLauncher.Formatter

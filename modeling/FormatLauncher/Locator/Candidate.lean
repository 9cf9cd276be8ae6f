/-
# The command to locate

The command is the configured path if there is one, else the formatter next to an interpreter, else
the formatter's own name.  A command with a separator is a path below the current directory; any
other is looked up in the search path.  The file found this way has to exist, to be regular and to
be executable.
-/

import FormatLauncher.Launch
import FormatLauncher.Path.Home
import FormatLauncher.Placeholder
import FormatLauncher.Text.LowerCase
import FormatLauncher.Tool

namespace FormatLauncher.Locator

/-- The file names under which an executable may stand in a directory. -/
def siblingNames (convention : Spelling.Convention) (binary : String) : List String :=
  let small := Text.toLower binary
  match convention with
  | .slash => [binary]
  | .backslash => if small.endsWith ".exe" then [binary] else [binary, binary ++ ".exe"]

/-- The first existing file with the name of an executable next to an interpreter. -/
def findSibling (convention : Spelling.Convention) (w : World) (interpreter : List String)
    (binary : String) : Option String :=
  let candidates := interpreter.flatMap fun python =>
    (siblingNames convention binary).map (Spelling.join (Spelling.directory python))
  candidates.find? (w.files.pathExists w.directory)

/-- The command for a configured path, a context and interpreters. -/
def candidate (configured : Option String) (context : Placeholder.Context)
    (interpreter : Option (List String)) (tool : Tool) (strict : Bool) : Action String := do
  if let some path := configured.filter (· ≠ "") then
    if let first :: _ ← Placeholder.resolve [path] context interpreter strict then
      return first
  if let some sibling := findSibling .slash (← get) (interpreter.getD []) tool.binary then
    Action.say .debug ("Found " ++ tool.binary ++ " next to interpreter: " ++ sibling)
    return sibling
  return tool.binary

/-- The first runnable file of a name in the search path. -/
def searchPath? (w : World) (name : String) : Option String :=
  let path := (w.environment.get? "PATH").getD Launch.defaultSearchPath
  if path = "" then none
  else
    let files := (Launch.searchDirectories path).map fun directory => Spelling.join directory name
    files.find? fun file =>
      match w.files.find? w.directory file with
      | some (_, e) => e.isRunnable
      | none => false

/-- Whether the file of an absolute path can be run as far as can be seen without running it, with
what there is to say about it. -/
def checkFile (convention : Spelling.Convention) (w : World) (path : String) :
    Bool × List String :=
  match w.files.find? w.directory path with
  | none => (false, [path ++ " does not exist"])
  | some (_, e) =>
    if !e.isRegular then (false, [path ++ " is not a regular file"])
    else if convention = .slash && !e.isExecutable then (false, [path ++ " is not executable"])
    else (true, [])

/-- The absolute path of a spelling. -/
def absolute (w : World) (spelling : String) : Except Failure Path :=
  if (Path.parse spelling).isAbsolute then .ok (Spelling.absolute [] spelling)
  else w.directory.named.map fun current => Spelling.absolute current spelling

/-- The absolute path of a command and whether its file passes the checks. -/
def check (convention : Spelling.Convention) (command : String) : Action (String × Bool) := do
  let w ← get
  let found := if Spelling.hasSeparator convention command then some command
    else searchPath? w command
  match found with
  | none =>
    Action.say .debug ("\"" ++ command ++ "\" not found on PATH")
    return (command, false)
  | some file =>
    let path := (← Action.ofExcept (absolute w file)).text
    let (passes, remarks) := checkFile convention w path
    Action.sayAll (remarks.map fun text => ⟨.debug, text⟩)
    return (path, passes)

end FormatLauncher.Locator

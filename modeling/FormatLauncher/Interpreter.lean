/-
# Interpreters

The interpreter of a workspace folder is that of the active virtual environment, or else that of a
virtual environment inside the folder.  At most one is found; the formatter is looked for next to
it.
-/

import FormatLauncher.Contents

namespace FormatLauncher.Interpreter

/-- The python executable of a virtual environment. -/
def inVenv (convention : Spelling.Convention) (venv : Path) : Path :=
  match convention with
  | .slash => (venv.child "bin").child "python"
  | .backslash => (venv.child "Scripts").child "python.exe"

/-- The directories of a folder that may be virtual environments. -/
def venvNames : List String := [".venv", "venv"]

/-- The interpreter for a folder in an environment, if there is one. -/
def discover (folder : Option Path) (environment : Bindings) : Action (List String) := do
  let w ← get
  let active := (environment.getNonempty? "VIRTUAL_ENV").toList.map fun venv =>
    inVenv .slash (Path.parse venv)
  if let some python ← Action.ofExcept (Contents.firstPresent w active) then
    Action.say .debug ("Using active virtual environment interpreter: " ++ python.text)
    return [python.text]
  let inside := folder.toList.flatMap fun p =>
    venvNames.map fun name => inVenv .slash (p.child name)
  if let some python ← Action.ofExcept (Contents.firstPresent w inside) then
    Action.say .debug ("Using workspace interpreter: " ++ python.text)
    return [python.text]
  return []

/-- Where interpreters come from. -/
inductive Source
  /-- The virtual environments at hand. -/
  | discovered
  /-- A list given in advance. -/
  | given (paths : List String)
  deriving DecidableEq, Repr

/-- The interpreters for a folder in an environment. -/
def Source.find (source : Source) (folder : Option Path) (environment : Bindings) :
    Action (List String) :=
  match source with
  | .discovered => discover folder environment
  | .given paths => pure paths

end FormatLauncher.Interpreter

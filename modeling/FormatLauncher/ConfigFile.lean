/-
# The configuration file

A configuration is read from the file that was asked for, or else from a file of a fixed name in the
home directory, or else from one in the current directory.  It has to be a mapping, or empty.
Problems with its entries are logged and stop nothing.
-/

import FormatLauncher.Contents
import FormatLauncher.Path.Home
import FormatLauncher.Settings.Check
import FormatLauncher.Yaml.Document

namespace FormatLauncher.ConfigFile

/-- The name of a configuration file. -/
def fileName : String := "shandy.yml"

/-- The file that is asked for, or the first of the usual ones that exists. -/
def choose (w : World) (asked : Option String) : Except Failure Path :=
  match asked.filter (· ≠ "") with
  | some spelling => (Path.parse spelling).expandHome w.environment
  | none =>
    do
      let home ← (Path.mk .relative ["~"]).expandHome w.environment
      let current ← w.directory.named
      let usual := [home.child fileName, (Path.ofLocation current).child fileName]
      match ← Contents.firstPresent w usual with
      | some p => return p
      | none => throw (.noConfigFile (usual.map Path.text))

/-- A configuration, and its mark where it stands inside itself. -/
structure Loaded where
  entries : Entries
  mark : Option Nat

/-- The configuration in the bytes of a file. -/
def parse (p : Path) (bytes : Text.Bytes) : Except Failure Loaded :=
  match (Yaml.Source.ofStream (Text.Stream.ofBytes bytes)).read with
  | .error (.undecodable error) => .error (.undecodable error)
  | .error fault => .error (.document p.text fault)
  | .ok .null => .ok ⟨[], none⟩
  | .ok (.map entries) => .ok ⟨entries, none⟩
  | .ok (.circular mark (.map entries)) => .ok ⟨entries, some mark⟩
  | .ok _ => .error (.notMapping p.text)

/-- The configuration with another value under a key, also where it stands inside itself. -/
def Loaded.insert (config : Loaded) (key value : Value) : Loaded :=
  let entries := match config.mark with
    | some mark => Value.insertAtEntries mark key value config.entries
    | none => config.entries
  { config with entries := entries.insert key value }

/-- The configuration with the home directory in the workspace's path. -/
def expandWorkspace (environment : Bindings) (config : Loaded) : Except Failure Loaded :=
  match config.entries.get? "workspace" with
  | none => .ok config
  | some v =>
    if v.isTruthy then do
      let p ← (Path.parse (← Settings.shown v.plainText?)).expandHome environment
      return config.insert (.text "workspace") (.text p.text)
    else .ok config

/-- The log records of problems with a configuration. -/
def issueRecords (issues : List String) : List LogRecord :=
  if issues = [] then []
  else
    ⟨.warning, "Configuration validation warnings:"⟩
      :: issues.map fun issue => ⟨.warning, "  - " ++ issue⟩

/-- Load a configuration. -/
def load (asked : Option String) : Action Entries := do
  let w ← get
  let p ← Action.ofExcept (choose w asked)
  let bytes ← Action.ofExcept (Contents.read w p)
  let config ← Action.ofExcept (parse p bytes)
  let config ← Action.ofExcept (expandWorkspace w.environment config)
  let issues ← Action.ofExcept (Settings.issues config.entries)
  Action.sayAll (issueRecords issues)
  return config.entries

/-- The settings of a configuration, with the warnings logged. -/
def settings (config : Entries) : Action Settings := do
  let (settings, warnings) := (Settings.ofEntries config).outcome
  Action.sayAll (warnings.map fun text => ⟨.warning, text⟩)
  Action.ofExcept settings

/-- The file is not there. -/
def isAbsent : Failure → Bool
  | .noConfigFile _ => true
  | .system cause => cause.kindName = "FileNotFoundError"
  | _ => false

/-- The file is there and holds no configuration. -/
def isUnreadable (failure : Failure) : Bool := failure.kindName = "YAMLError"

end FormatLauncher.ConfigFile

/-
# Checking a configuration

A configuration is checked before it is used.  Problems are reported in a fixed order and none of
them stops the use: unknown keys first, in their order, then the known keys one after the other.
Unknown keys that do not compare with one another cannot be reported.
-/

import FormatLauncher.EditDistance
import FormatLauncher.Settings.Basic

namespace FormatLauncher.Settings

/-- The keys a configuration may have. -/
def knownKeys : List String := [
  "path", "args", "workspace", "workspace_folders", "timeout", "probe_timeout", "strict_variables"]

/-- The key is one of the known ones. -/
def isKnownKey (key : Value) : Bool := knownKeys.any fun name => key.same (.text name)

/-- The report of an unknown key, with the nearest known one if it is near. -/
def unknownKeyIssue (name : String) : String :=
  let hint := match EditDistance.nearest? name knownKeys with
    | some known => if known = "" then "" else " Did you mean '" ++ known ++ "'?"
    | none => ""
  "Unknown config key '" ++ name ++ "'." ++ hint

/-- Problems with the path. -/
def pathIssues (v : Value) : List String :=
  if v.isNull || v.isText then [] else ["'path' must be a string, got " ++ v.kindName]

/-- Problems with the arguments. -/
def argumentIssues (v : Value) : Except Failure (List String) :=
  match v.bare with
  | .null => .ok []
  | .list items =>
    let bad := items.filter fun item => !item.isText
    if bad.isEmpty then .ok []
    else
      (shown (Value.list bad).literal?).map fun text =>
        ["'args' entries should be strings; will convert " ++ text]
  | _ => .ok ["'args' must be a list, got " ++ v.kindName]

/-- Problems with the named folders. -/
def folderIssues (v : Value) : List String :=
  match v.bare with
  | .null | .map _ => []
  | _ => ["'workspace_folders' must be a mapping of name to path, got " ++ v.kindName]

/-- Problems with a number of seconds. -/
def secondsIssues (key : String) (v : Value) : Except Failure (List String) :=
  let notPositive : Except Failure (List String) :=
    (shown v.plainText?).map fun text => ["'" ++ key ++ "' must be positive, got " ++ text]
  match v with
  | .null => .ok []
  | .int n => if n ≤ 0 then notPositive else .ok []
  | .float x =>
    match x.toExtended? with
    | some q => if ExtendedRat.lt (.finite 0) q then .ok [] else notPositive
    | none => .ok []
  | v => .ok ["'" ++ key ++ "' must be a number of seconds, got " ++ v.kindName]

/-- Problems with the switch for strict placeholders. -/
def strictIssues : Value → Except Failure (List String)
  | .null | .bool _ => .ok []
  | v => (shown v.literal?).map fun text =>
    ["'strict_variables' must be true or false, got " ++ text]

/-- All problems of a configuration, in the order in which they are reported. -/
def issues (config : Entries) : Except Failure (List String) :=
  let unknown := (config.map (·.1)).filter fun key => !isKnownKey key
  match Value.sort? unknown with
  | none => .error .incomparableKeys
  | some keys => do
    let value (key : String) : Value := (config.get? key).getD .null
    let names ← keys.mapM fun key => shown key.plainText?
    let arguments ← argumentIssues (value "args")
    let limit ← secondsIssues "timeout" (value "timeout")
    let probeLimit ← secondsIssues "probe_timeout" (value "probe_timeout")
    let strict ← strictIssues (value "strict_variables")
    return names.map unknownKeyIssue ++ pathIssues (value "path") ++ arguments
      ++ folderIssues (value "workspace_folders") ++ limit ++ probeLimit ++ strict

end FormatLauncher.Settings

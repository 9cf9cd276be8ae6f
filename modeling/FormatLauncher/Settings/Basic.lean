/-
# Settings

Settings are made from the entries of a configuration.  A value of the wrong kind is converted if it
can be and dropped if it cannot, with a warning either way.  Two kinds of value stop the making: an
integer too large to be a number of seconds, and a value with an integer too long to be written.
-/

import FormatLauncher.Bindings
import FormatLauncher.Decimal.Reader
import FormatLauncher.Failure
import FormatLauncher.Value.Order

namespace FormatLauncher

/-- The settings of one request. -/
structure Settings where
  path : Option String
  arguments : List String
  workspace : Option String
  folders : Bindings
  limit : Option Binary64
  probeLimit : Option Binary64
  strict : Bool
  deriving DecidableEq, Repr

namespace Settings

/-- The limit of a version query when none is set: ten seconds. -/
def defaultProbeLimit : Binary64 := .ofInt 10

/-- The settings of an empty configuration. -/
def default : Settings := ⟨none, [], none, [], none, some defaultProbeLimit, false⟩

/-- Making settings: warnings are given on the way, and stay when the making fails. -/
abbrev Coercion := ExceptT Failure (StateM (List String))

namespace Coercion

/-- What a coercion gives, and its warnings. -/
def outcome {α : Type} (coercion : Coercion α) : Except Failure α × List String := coercion []

/-- Give a warning. -/
def warn (text : String) : Coercion Unit := modify fun warnings => warnings ++ [text]

end Coercion

open Coercion

/-- A text of a value, which is missing when the value cannot be written. -/
def shown : Option String → Except Failure String
  | some text => .ok text
  | none => .error .numberTooLong

/-- One entry of the arguments as text, with a warning unless it is a text; null is dropped. -/
def coerceArgument : Value → Coercion (List String)
  | .null => do
    warn "Ignoring empty entry in 'args'"
    return []
  | .text s => return [s]
  | v => do
    warn ("Converting non-string argument " ++ (← shown v.literal?) ++ " to string")
    return [← shown v.plainText?]

/-- The arguments. -/
def coerceArguments (v : Value) : Coercion (List String) :=
  match v.bare with
  | .null => return []
  | .list items | .tuple items => do return (← items.mapM coerceArgument).flatten
  | _ => do
    warn ("'args' should be a list, got " ++ v.kindName ++ "; using it as one argument")
    return [← shown v.plainText?]

/-- The path of the formatter; an empty path is no path. -/
def coercePath : Value → Coercion (Option String)
  | .null => return none
  | .text s => return some s
  | v => do
    warn ("Converting non-string 'path' " ++ (← shown v.literal?) ++ " to string")
    return some (← shown v.plainText?)

/-- The entries of the named folders; a value that is no mapping has none. -/
def folderEntries (v : Value) : Coercion Entries :=
  if !v.isTruthy then return []
  else
    match v.bare with
    | .map entries => return entries
    | _ => do
      warn "'workspace_folders' must be a mapping; ignoring it"
      return []

/-- The named folders. -/
def coerceFolders (entries : Entries) : Coercion Bindings := do
  return Bindings.ofPairs (← entries.mapM fun (k, v) => do
    return (← shown k.plainText?, ← shown v.plainText?))

/-- The workspace; a value that counts as false is none. -/
def coerceWorkspace (v : Value) : Coercion (Option String) :=
  if v.isTruthy then do return some (← shown v.plainText?) else return none

/-- A value as a number: none when it is none, and a failure when it is too large. -/
def number? : Value → Except Failure (Option Binary64)
  | .bool b => .ok (some (.ofInt (if b then 1 else 0)))
  | .int n =>
    let x := Binary64.ofInt n
    if x.isInfinite then .error .numberTooLarge else .ok (some x)
  | .float x => .ok (some x)
  | .text s => .ok (Decimal.readText? s)
  | .bytes b => .ok (Decimal.readBytes? b)
  | _ => .ok none

/-- The text of a default number of seconds. -/
def defaultText (default : Option Binary64) : String :=
  match default with
  | none => "None"
  | some x => x.toText

/-- A number of seconds under a key, with a default for a missing key and for a value that is no
number. -/
def coerceSeconds (config : Entries) (key : String) (default : Option Binary64) :
    Coercion (Option Binary64) :=
  match config.get? key with
  | none => return default
  | some .null => return none
  | some v => do
    match ← number? v with
    | some x => return some x
    | none =>
      warn ("'" ++ key ++ "' must be a number of seconds, got " ++ (← shown v.literal?)
        ++ "; using " ++ defaultText default)
      return default

/-- The settings of a configuration. -/
def ofEntries (config : Entries) : Coercion Settings := do
  let value (key : String) : Value := (config.get? key).getD .null
  let path ← coercePath (value "path")
  let folders ← folderEntries (value "workspace_folders")
  let arguments ← coerceArguments (value "args")
  let workspace ← coerceWorkspace (value "workspace")
  let folders ← coerceFolders folders
  let limit ← coerceSeconds config "timeout" none
  let probeLimit ← coerceSeconds config "probe_timeout" (some defaultProbeLimit)
  return {
    path := path.filter (· ≠ "")
    arguments
    workspace
    folders
    limit
    probeLimit
    strict := (value "strict_variables").isTruthy }

end Settings

end FormatLauncher

/-
# Running the command line

The general options come first, then the configuration is loaded, and then the command reads its own
arguments and does its work.  A configuration file that is not there matters only if it was asked
for.
-/

import FormatLauncher.CommandLine.Inspection

namespace FormatLauncher.CommandLine

/-- The version of the program. -/
def versionText : String := "shandy-sqlfmt version 0.1.0"

/-- Load the configuration and its settings. -/
def loadConfig (asked : Option String) : Action (Entries × Settings) := do
  let config ← ConfigFile.load asked
  let settings ← ConfigFile.settings config
  Action.say .debug ("Loaded config from: " ++ asked.getD "default location")
  return (config, settings)

/-- The configuration and its settings; without a file nobody asked for, those of an empty one. -/
def configured (general : General) : Session (Entries × Settings) := do
  let asked := general.config.filter (· ≠ "")
  match ← Session.attempt (loadConfig asked) with
  | .ok loaded => return loaded
  | .error failure =>
    if ConfigFile.isAbsent failure && asked.isNone then
      Session.perform (Action.say .debug "No config file found, using defaults")
      return ([], Settings.default)
    else if ConfigFile.isAbsent failure || ConfigFile.isUnreadable failure then
      Session.printError ("Error: " ++ failure.message)
      Session.exit 1
    else throw (.failed failure)

/-- Do a task. -/
def carryOut (s : Setup) : Task → Session Unit
  | .format task => format s task
  | .workspace root => formatWorkspace s root
  | .validate => validate s
  | .check => check s
  | .present => present s
  | .tools => tools s
  | .version => Session.printLine versionText

/-- Do what was read, or end the session. -/
def Request.orStop {α : Type} : Request α → Session α
  | .run value => pure value
  | .help => throw (.help 0)
  | .misuse => throw .misuse

/-- The session of some arguments, with a text on the input. -/
def session (arguments : List String) (input : String) : Session Unit := do
  if arguments.isEmpty then
    throw (.help 2)
  let (general, command, rest) ← (readGeneral arguments).orStop
  let (config, settings) ←
    if command = .version then pure ([], Settings.default) else configured general
  let task ← (command.read rest).orStop
  carryOut ⟨general, config, settings, String.ofList (Text.unifyReturns input.toList)⟩ task

end FormatLauncher.CommandLine

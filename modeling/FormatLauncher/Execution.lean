/-
# Running the formatter

The formatter is run in one of two shapes: as a filter, with the document on its input and the
formatted document on its output, or in place, with the files to change as its arguments.  Its exit
code alone says whether it succeeded, and its output is looked at only when it has ended.
-/

import FormatLauncher.Locator.Basic
import FormatLauncher.Text.ShellWord

namespace FormatLauncher.Execution

/-- What a run that completed leaves, as text. -/
structure Output where
  code : Int
  output : String
  errors : String
  deriving DecidableEq, Repr

/-- What a run is made with besides its arguments. -/
structure Terms where
  /-- The directory to run in; none for the current one. -/
  directory : Option String
  limit : Option Seconds
  schedule : Schedule

/-- The name of a process in a message; process numbers are not modelled. -/
def processName (command : String) : String := "\"" ++ command ++ "\""

/-- The number of a process in a message; process numbers are not modelled. -/
def processNumber : String := " (pid N)"

/-- Run a command to its end.  Output that is not UTF-8 is an error if `strict` and the run
succeeded; otherwise its bad pieces are replaced. -/
def execute (argv : List String) (input : Option String) (terms : Terms) (strict : Bool) :
    Action Output := do
  match argv with
  | [] => throw .noCommand
  | command :: arguments =>
    Action.say .info ("Execute: \"" ++ Text.ShellWord.join argv ++ "\"")
    match Launch.start (← get) command arguments terms.directory with
    | .error .embeddedNul => throw .embeddedNul
    | .error (.system cause) =>
      Action.say .error ("Failed to start " ++ processName command ++ ": " ++ cause.message)
      throw (.notStarted command cause)
    | .ok ready =>
      let bytes := match input with
        | some text => Text.Utf8.encode text
        | none => []
      match ← Locator.supervise ready bytes terms.limit terms.schedule with
      | (.waiterCancelled, _) => throw .waiterCancelled
      | (.cancelled, _) =>
        Action.say .warning ("Cancelled " ++ processName command ++ processNumber)
        throw (.cancelled command)
      | (.output, some finish) =>
        let errors := Text.Utf8.decodeLenient finish.errors
        if strict && finish.code = 0 then
          match Text.Utf8.decode finish.output with
          | .ok output => return ⟨finish.code, output, errors⟩
          | .error e =>
            Action.say .error (processName command ++ " wrote undecodable output: " ++ e.message)
            throw (.invalidOutput command e.defect)
        else
          return ⟨finish.code, Text.Utf8.decodeLenient finish.output, errors⟩
      | _ =>
        let limit := terms.limit.getD Locator.usualLimit
        Action.say .error
          (processName command ++ " timed out after " ++ limit.text ++ "s" ++ processNumber)
        throw (.timedOut command limit)

/-- A record of a stream, unless the stream is empty. -/
def sayStream (level : Level) (name text : String) : Action Unit :=
  if text = "" then pure () else Action.say level (name ++ ":\n" ++ text)

/-- The argument that makes the formatter a filter. -/
def inputMark : String := "-"

/-- Run the formatter in place. -/
def inPlace (command : String) (arguments targets : List String) (terms : Terms) :
    Action Output := do
  let result ← execute (command :: arguments ++ targets) none terms false
  sayStream .info "STDOUT" result.output
  sayStream .info "STDERR" result.errors
  if result.code ≠ 0 then
    Action.say .error (processName command ++ " failed with exit code " ++ toString result.code)
    throw (.executionFailed command result.code result.errors)
  return result

/-- Run the formatter as a filter, and return what it prints. -/
def asFilter (command : String) (arguments : List String) (text : String) (terms : Terms) :
    Action String := do
  let result ← execute (command :: arguments ++ [inputMark]) (some text) terms true
  if result.code ≠ 0 then
    Action.say .error (processName command ++ " failed with exit code " ++ toString result.code)
    sayStream .error "STDERR" result.errors
    throw (.executionFailed command result.code result.errors)
  sayStream .debug "STDOUT" result.output
  sayStream .info "STDERR" result.errors
  return result.output

end FormatLauncher.Execution

/-
# Sessions

A session is one run of the command line: it acts on a world and prints.  It ends with an exit code,
with a page of help, as misuse, or with a failure that nothing handles; what was printed before
stays printed.
-/

import FormatLauncher.Console.Table
import FormatLauncher.Console.Echo
import FormatLauncher.World

namespace FormatLauncher.CommandLine

/-- What was printed. -/
structure Screen where
  output : String
  errors : String
  deriving DecidableEq, Repr

/-- How a session ends before its command is through. -/
inductive Stop
  | exit (code : Nat)
  | help (code : Nat)
  | misuse
  | failed (failure : Failure)
  deriving DecidableEq, Repr

/-- A session. -/
abbrev Session := ExceptT Stop (StateT Screen (StateM World))

namespace Session

/-- Do an action on the world; a failure ends the session. -/
def perform {α : Type} (action : Action α) : Session α := fun screen w =>
  match action.outcome w with
  | (.ok value, w) => ((.ok value, screen), w)
  | (.error failure, w) => ((.error (.failed failure), screen), w)

/-- Do an action on the world and have its failure as a value. -/
def attempt {α : Type} (action : Action α) : Session (Except Failure α) :=
  perform action.attempt

/-- Print text. -/
def print (text : String) : Session Unit :=
  modify fun screen => { screen with output := screen.output ++ Console.plain text }

/-- Print a line. -/
def printLine (text : String) : Session Unit := print (text ++ "\n")

/-- Print a line of errors. -/
def printError (text : String) : Session Unit :=
  modify fun screen => { screen with errors := screen.errors ++ Console.plain (text ++ "\n") }

/-- Print text as it is, escape sequences included. -/
def printRich (text : String) : Session Unit :=
  modify fun screen => { screen with output := screen.output ++ text }

/-- Print a text of markup, in lines that fit on the screen. -/
def printMarkup (markup : String) : Session Unit :=
  match Console.Markup.render markup with
  | .ok text =>
    let lines := Console.Layout.lines Console.Layout.screenWidth .folded text
    printRich (String.ofList (lines.flatMap fun line => line ++ ['\n']))
  | .error failure => throw (.failed failure)

/-- End the session with an exit code. -/
def exit {α : Type} (code : Nat) : Session α := throw (.exit code)

end Session

/-- What is left of a session that has ended. -/
structure Ended where
  screen : Screen
  /-- None when the command went through to its end. -/
  stop : Option Stop
  world : World

/-- Run a session from a blank screen. -/
def Session.run (session : Session Unit) (w : World) : Ended :=
  match session ⟨"", ""⟩ w with
  | ((.ok _, screen), w) => ⟨screen, none, w⟩
  | ((.error stop, screen), w) => ⟨screen, some stop, w⟩

/-- The exit code of a session. -/
def Ended.code (ended : Ended) : Nat :=
  match ended.stop with
  | none => 0
  | some (.exit code) | some (.help code) => code
  | some .misuse => 2
  | some (.failed _) => 1

/-- The failure that nothing handled. -/
def Ended.failure? (ended : Ended) : Option Failure :=
  match ended.stop with
  | some (.failed failure) => some failure
  | _ => none

end FormatLauncher.CommandLine

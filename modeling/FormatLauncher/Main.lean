/-
# The program

The outer layer: it gathers a world from the surroundings, runs the session that the arguments ask
for, and prints what the session printed.  The world holds the configuration files and the files
that the arguments name.  It holds no programs, because nothing is started from here, so looking for
the formatter always ends with its not being there.
-/

import FormatLauncher.CommandLine.Run
import FormatLauncher.FileTree.Edit

namespace FormatLauncher.Shell

open CommandLine

/-- The file that holds the environment: bindings with an equals sign, a NUL after each. -/
def environmentFile : String := "/proc/self/environ"

/-- The page that is printed for help. -/
def helpPage : String :=
  "Usage: shandy-sqlfmt [--config FILE] [--interpreter FILE] [--verbose] COMMAND [ARGS]\n\n"
    ++ "Commands:\n"
    ++ "  format [--check] [--in-place] [--stdin-filename FILE] FILES\n"
    ++ "  workspace [ROOT]\n"
    ++ "  config validate | check | show | tools\n"
    ++ "  version\n"

/-- The line that is printed for misuse. -/
def misuseLine : String := "Error: the arguments cannot be used; try --help\n"

/-- The environment; empty where it cannot be read. -/
def readEnvironment : IO Bindings := do
  let block ← try IO.FS.readBinFile environmentFile catch _ => pure ByteArray.empty
  let items := ((Text.Utf8.decodeLenient block.toList).toList.splitOnP (· = '\x00')).filter (· ≠ [])
  return Bindings.ofPairs <| items.map fun item =>
    (String.ofList (item.takeWhile (· ≠ '=')), String.ofList ((item.dropWhile (· ≠ '=')).drop 1))

/-- The tree with the file that a path names, if there is one. -/
def addFile (tree : FileTree) (p : Path) : IO FileTree := do
  try
    let contents ← IO.FS.readBinFile p.text
    return tree.putAt p (.file contents.toList 0o644)
  catch _ => return tree

/-- The paths of the files that a session may read. -/
def readablePaths (environment : Bindings) (directory : Location) (arguments : List String) :
    List Path :=
  let spelled := ConfigFile.fileName :: arguments
  let here := spelled.map fun spelling =>
    Path.ofLocation (Path.placed directory (Path.parse spelling))
  let home := (environment.get? "HOME").toList.map fun home =>
    (Path.parse home).child ConfigFile.fileName
  home ++ here

/-- The world around the program. -/
def readWorld (arguments : List String) : IO World := do
  let environment ← readEnvironment
  let directory := (Path.parse (toString (← IO.currentDir))).names
  let start := (FileTree.mk []).addDirectory (Path.ofLocation directory)
  let files ← (readablePaths environment directory arguments).foldlM addFile start
  return ⟨files, fun _ _ _ => none, environment, directory, [], [], .ample⟩

/-- Print what a session printed, and what it ended with. -/
def printEnded (ended : Ended) : IO Unit := do
  IO.print ended.screen.output
  IO.eprint ended.screen.errors
  match ended.stop with
  | some (.help _) => IO.print helpPage
  | some .misuse => IO.eprint misuseLine
  | some (.failed failure) => IO.eprintln (failure.kindName ++ ": " ++ failure.message)
  | _ => pure ()

/-- The arguments ask for the input. -/
def wantsInput (arguments : List String) : Bool := arguments.contains inputMark

/-- Run the command line. -/
def run (arguments : List String) : IO UInt32 := do
  let world ← readWorld arguments
  let input ← if wantsInput arguments then (← IO.getStdin).readToEnd else pure ""
  let ended := (CommandLine.session arguments input).run world
  printEnded ended
  return UInt32.ofNat ended.code

end FormatLauncher.Shell

/-- Run the command line. -/
def main (arguments : List String) : IO UInt32 := FormatLauncher.Shell.run arguments

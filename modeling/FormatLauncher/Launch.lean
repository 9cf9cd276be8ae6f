/-
# Starting programs

A command that holds a slash names a file below the directory in which the program is to run; any
other command is looked up in the search path.  The directory is checked first.  Of several failures
on the search path the last one counts, but one that is not about a missing file counts before all
others.  A file that begins with a number sign and an exclamation mark is run by the program that
its first line names.
-/

import FormatLauncher.World

namespace FormatLauncher.Launch

/-- A program about to run. -/
structure Ready where
  program : Program
  command : String
  directory : Location
  arguments : List String

/-- Why a program does not start. -/
inductive Refusal
  /-- A text holds a NUL. -/
  | embeddedNul
  | system (cause : SystemError)

/-- The directories of a search path. -/
def searchDirectories (path : String) : List String :=
  (path.toList.splitOnP (· = ':')).map String.ofList

/-- The search path used when the environment has none. -/
def defaultSearchPath : String := "/bin:/usr/bin"

/-- Why one file is not run. -/
inductive FileRefusal
  | missing
  | notDirectory
  | tooManyLinks
  | nameTooLong
  | argumentsTooLong
  | denied
  | notProgram
  deriving DecidableEq

/-- The refusal, about a named file. -/
def FileRefusal.about (file : String) : FileRefusal → SystemError
  | .missing => .missing file
  | .notDirectory => .notDirectory file
  | .tooManyLinks => .tooManyLinks file
  | .nameTooLong => .nameTooLong file
  | .argumentsTooLong => .argumentsTooLong file
  | .denied => .permissionDenied file
  | .notProgram => .notProgram file

/-- A failed walk as a refusal. -/
def FileRefusal.ofWalk : FileTree.WalkFault → FileRefusal
  | .missing => .missing
  | .notDirectory => .notDirectory
  | .tooManyLinks => .tooManyLinks
  | .nameTooLong => .nameTooLong

/-- How much of a file is looked at for the name of an interpreter, in bytes. -/
def headLength : Nat := 256

/-- A space or a tab. -/
def isGap (b : UInt8) : Bool := b == 0x20 || b == 0x09

/-- What ends a name: a gap or a NUL. -/
def endsName (b : UInt8) : Bool := isGap b || b == 0

/-- Bytes without the gaps at their end. -/
def trimEnd (bytes : Text.Bytes) : Text.Bytes := (bytes.reverse.dropWhile isGap).reverse

/-- The first line of what follows the two marks at the start of a file.  Without a line feed, or
with a NUL before it, the line is all that is looked at but the last byte, padded with NULs; then
the name on it has to be seen to end. -/
def firstLine? (rest : Text.Bytes) : Option Text.Bytes :=
  let seen := rest.take (headLength - 2)
  match seen.dropWhile fun b => b ≠ 0x0A && b ≠ 0 with
  | 0x0A :: _ => some (trimEnd (seen.takeWhile (· ≠ 0x0A)))
  | _ =>
    let seen := seen ++ List.replicate (headLength - 2 - seen.length) 0
    if (seen.dropWhile isGap).any endsName then some (trimEnd seen.dropLast) else none

/-- The words on a first line: a name, and an argument if anything follows a gap.  Both end at a
NUL. -/
def lineWords? (line : Text.Bytes) : Option (List Text.Bytes) :=
  let line := line.dropWhile isGap
  if line = [] then none
  else
    let name := line.takeWhile (!endsName ·)
    match line.drop name.length with
    | [] => some [name]
    | gap :: rest =>
      if gap = 0 then some [name]
      else some [name, (rest.dropWhile isGap).takeWhile (· ≠ 0)]

/-- The interpreter on the first line of a file, and its argument if there is one.  A line that
names nothing names no interpreter. -/
def interpreterLine? (contents : Text.Bytes) : Option (List String) :=
  match contents with
  | 0x23 :: 0x21 :: rest => do
    let words ← lineWords? (← firstLine? rest)
    return words.map Text.Utf8.decodeLenient
  | _ => none

/-- Interpreters of interpreters are followed this far.  A program counts as one that has an
interpreter itself. -/
def interpreterDepth : Nat := 5

/-- What is run under the name of a file. -/
def runnable (tree : FileTree) (directory : Location) (file : String) :
    Except FileRefusal Entry :=
  match tree.find directory file with
  | .error fault => .error (.ofWalk fault)
  | .ok (_, e) => if e.isRunnable then .ok e else .error .denied

/-- The program in a file: its number, the name it runs under and all its arguments.  An interpreter
without a name is the directory itself, which cannot be run. -/
def openFile (tree : FileTree) (directory : Location) :
    (depth : Nat) → (file : String) → (arguments : List String) →
      Except FileRefusal (Nat × String × List String)
  | depth, file, arguments =>
    match runnable tree directory file with
    | .error refusal => .error refusal
    | .ok (.program id _) => if depth = 0 then .error .tooManyLinks else .ok (id, file, arguments)
    | .ok (.file contents _) =>
      match interpreterLine? contents, depth with
      | none, _ | some [], _ => .error .notProgram
      | some ("" :: _), _ => .error .denied
      | some (interpreter :: _), 0 =>
        match runnable tree directory interpreter with
        | .error refusal => .error refusal
        | .ok _ => .error .tooManyLinks
      | some (interpreter :: rest), depth + 1 =>
        openFile tree directory depth interpreter (rest ++ file :: arguments)
    | .ok _ => .error .denied

/-- The files that a command may name, in the order in which they are tried. -/
def candidates (environment : Bindings) (command : String) : List String :=
  if Spelling.hasSeparator .slash command then [command]
  else
    let path := (environment.get? "PATH").getD defaultSearchPath
    (searchDirectories path).map fun directory => Spelling.join directory command

/-- The refusal that is reported for several files: the first that is not about a missing file, and
otherwise the last. -/
def worst (refusals : List FileRefusal) : FileRefusal :=
  match refusals.find? fun r => r ≠ .missing && r ≠ .notDirectory with
  | some refusal => refusal
  | none => refusals.getLast?.getD .missing

/-- The longest argument or entry of the environment, in bytes. -/
def argumentLimit : Nat := 131071

/-- The command, its arguments and the environment can be handed over. -/
def fits (environment : Bindings) (argv : List String) : Bool :=
  (argv ++ environment.map fun (name, value) => name ++ "=" ++ value).all fun text =>
    text.utf8ByteSize ≤ argumentLimit

/-- The program in a file that is run with some arguments, if they can be handed over. -/
def openWith (tree : FileTree) (directory : Location) (fits : Bool) (arguments : List String)
    (file : String) : Except FileRefusal (Nat × String × List String) := do
  let _ ← runnable tree directory file
  if fits then openFile tree directory interpreterDepth file arguments
  else throw .argumentsTooLong

/-- Try files in turn. -/
def openFirst {α : Type} (openOne : String → Except FileRefusal α) :
    (refused : List FileRefusal) → List String → Except FileRefusal α
  | refused, [] => .error (worst refused)
  | refused, file :: rest =>
    match openOne file with
    | .ok found => .ok found
    | .error refusal => openFirst openOne (refused ++ [refusal]) rest

/-- The directory in which a program is to run. -/
def startDirectory (w : World) : (directory : Option String) → Except SystemError Location
  | none => .ok w.directory
  | some spelling =>
    match w.files.find w.directory spelling with
    | .error fault => .error ((FileRefusal.ofWalk fault).about spelling)
    | .ok (place, .directory) => .ok place
    | .ok _ => .error (.notDirectory spelling)

/-- Start a command, or say why it does not start. -/
def start (w : World) (command : String) (arguments : List String) (directory : Option String) :
    Except Refusal Ready :=
  if (command :: arguments ++ directory.toList).any Spelling.hasNul then .error .embeddedNul
  else
    match startDirectory w directory with
    | .error cause => .error (.system cause)
    | .ok place =>
      let openOne := openWith w.files place (fits w.environment (command :: arguments)) arguments
      match openFirst openOne [] (candidates w.environment command) with
      | .error refusal => .error (.system (refusal.about command))
      | .ok (id, name, arguments) => .ok ⟨w.programs id, name, place, arguments⟩

end FormatLauncher.Launch

/-
# The world a request acts on

A world is a file tree, the programs in it, an environment and a current directory, together with
what has been done so far: the log, and the programs that were started.  An action reads and changes
a world and ends with a value or a failure; what it did before failing stays done.

Files are kept by a storage, which belongs to the world like its programs: what it refuses, and
where it breaks a write off, is not up to whoever writes.
-/

import FormatLauncher.Bindings
import FormatLauncher.Failure
import FormatLauncher.FileTree.Edit

namespace FormatLauncher

/-- How important a log record is. -/
inductive Level
  | debug
  | info
  | warning
  | error
  deriving DecidableEq, Repr

/-- The name of a level. -/
def Level.name : Level → String
  | .debug => "DEBUG"
  | .info => "INFO"
  | .warning => "WARNING"
  | .error => "ERROR"

/-- One record of the log. -/
structure LogRecord where
  level : Level
  text : String
  deriving DecidableEq, Repr

/-- What a program is started with. -/
structure Call where
  directory : Location
  arguments : List String
  input : Text.Bytes
  deriving Repr

/-- What a program leaves when it ends.  A negative code is death by a signal. -/
structure Finish where
  code : Int
  output : Text.Bytes
  errors : Text.Bytes
  files : FileTree

/-- A program: what it does with a call in a file tree; none when it never ends. -/
abbrev Program := Call → FileTree → Option Finish

/-- A program that was started, under the name it was started as. -/
structure Run where
  command : String
  directory : Location
  arguments : List String
  finished : Bool
  deriving DecidableEq, Repr

/-- What the system that keeps the files does when they are read and written.  It does the same for
the same file and the same bytes every time: that files take space from each other is not
modelled. -/
structure Storage where
  /-- Everything can be read and written whatever its mode, as by a superuser. -/
  ignoresModes : Bool
  /-- After how many bytes writing some contents at a place breaks off, and why; none when all of
  them are stored. -/
  breaksOff : Location → Text.Bytes → Option (Nat × SystemError)

namespace Storage

/-- Storage that refuses nothing and has room for everything. -/
def ample : Storage := ⟨true, fun _ _ => none⟩

/-- How much of some contents is stored at a place. -/
def stored (storage : Storage) (place : Location) (contents : Text.Bytes) : Text.Bytes :=
  match storage.breaksOff place contents with
  | none => contents
  | some (count, _) => contents.take count

/-- Whether writing some contents at a place goes through. -/
def verdict (storage : Storage) (place : Location) (contents : Text.Bytes) : Except Failure Unit :=
  match storage.breaksOff place contents with
  | none => .ok ()
  | some (_, cause) => .error (.system cause)

end Storage

/-- Everything a request reads and changes. -/
structure World where
  files : FileTree
  programs : Nat → Program
  environment : Bindings
  directory : Location
  log : List LogRecord
  runs : List Run
  storage : Storage := .ample

/-- Remove what a path names.  A current directory that goes with it loses its name. -/
def World.remove (w : World) (p : Path) : World :=
  let place := w.files.ownPlace p
  { w with files := w.files.remove place, directory := Location.afterRemoval place w.directory }

/-- An action on a world. -/
abbrev Action := ExceptT Failure (StateM World)

namespace Action

/-- Do an action in a world. -/
def outcome {α : Type} (action : Action α) (w : World) : Except Failure α × World := action w

/-- Add a record to the log. -/
def say (level : Level) (text : String) : Action Unit :=
  modify fun w => { w with log := w.log ++ [⟨level, text⟩] }

/-- Add records to the log. -/
def sayAll (records : List LogRecord) : Action Unit :=
  modify fun w => { w with log := w.log ++ records }

/-- Remember that a program was started. -/
def recordRun (run : Run) : Action Unit :=
  modify fun w => { w with runs := w.runs ++ [run] }

/-- Change the file tree. -/
def changeFiles (change : FileTree → FileTree) : Action Unit :=
  modify fun w => { w with files := change w.files }

/-- The value, or the failure, as a value; the world goes on either way. -/
def attempt {α : Type} (action : Action α) : Action (Except Failure α) := fun w =>
  let (result, w) := action w
  (.ok result, w)

/-- Continue with a value that was computed before, or fail as it did. -/
def ofExcept {α : Type} : Except Failure α → Action α
  | .ok value => pure value
  | .error failure => throw failure

end Action

end FormatLauncher

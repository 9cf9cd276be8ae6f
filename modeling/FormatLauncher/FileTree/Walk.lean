/-
# Finding what a path names

Two ways of following a path.  Walking is what opening a file does: every name but the last must
lead to a directory, links are followed, and the walk fails at the first name that leads nowhere.
Resolving computes the link-free place of a path; names that lead nowhere are kept, and only a chain
of links that returns to itself stops it.
-/

import FormatLauncher.FileTree.Basic
import FormatLauncher.Path.Spelling

namespace FormatLauncher.FileTree

/-- Why a walk fails. -/
inductive WalkFault
  | missing
  | notDirectory
  | tooManyLinks
  | nameTooLong
  deriving DecidableEq, Repr

/-- The number of links a walk follows before it gives up. -/
def linkBudget : Nat := 40

/-- The longest name, in bytes. -/
def nameLimit : Nat := 255

/-- The longest spelling, in bytes. -/
def spellingLimit : Nat := 4095

/-- The steps of a spelling.  A slash at the end asks for a directory, as a dot does. -/
def steps (spelling : String) : List String :=
  let segments := Path.segments spelling
  segments.filter (· ≠ "") ++ (if segments.getLast? = some "" then ["."] else [])

/-- Where the steps of a spelling start. -/
def startOf (current : Location) (spelling : String) : Location :=
  if (Path.parse spelling).isAbsolute then [] else current

/-- Walk names from a place; where a link on the way leads is left to `jump`. -/
def walkNames (tree : FileTree) (followLast : Bool)
    (jump : Location → List String → Except WalkFault Location) :
    (here : Location) → List String → Except WalkFault Location
  | here, [] => .ok here
  | here, name :: rest =>
    match tree.entryAt? here with
    | none => .error .missing
    | some .directory =>
      if name = "." then walkNames tree followLast jump here rest
      else if name = ".." then walkNames tree followLast jump here.dropLast rest
      else if nameLimit < name.utf8ByteSize then .error .nameTooLong
      else
        match tree.entryAt? (here ++ [name]) with
        | none => .error .missing
        | some (.link target) =>
          if rest = [] ∧ ¬followLast then .ok (here ++ [name])
          else jump (startOf here target) (steps target ++ rest)
        | some _ => walkNames tree followLast jump (here ++ [name]) rest
    | some _ => .error .notDirectory

/-- Walk from a place, following links, the one at the end only if asked. -/
def walkFrom (tree : FileTree) (followLast : Bool) :
    (budget : Nat) → (here : Location) → List String → Except WalkFault Location
  | 0 => walkNames tree followLast fun _ _ => .error .tooManyLinks
  | budget + 1 => walkNames tree followLast (walkFrom tree followLast budget)

/-- Walk a spelling from a current directory. -/
def walk (tree : FileTree) (current : Location) (spelling : String) : Except WalkFault Location :=
  if spelling = "" then .error .missing
  else if spellingLimit < spelling.utf8ByteSize then .error .nameTooLong
  else walkFrom tree true linkBudget (startOf current spelling) (steps spelling)

/-- What a spelling names, links followed. -/
def find (tree : FileTree) (current : Location) (spelling : String) :
    Except WalkFault (Location × Entry) :=
  match tree.walk current spelling with
  | .error fault => .error fault
  | .ok place =>
    match tree.entryAt? place with
    | none => .error .missing
    | some e => .ok (place, e)

/-- What a spelling names, if it names anything; a text with a NUL names nothing. -/
def find? (tree : FileTree) (current : Location) (spelling : String) : Option (Location × Entry) :=
  if Spelling.hasNul spelling then none else (tree.find current spelling).toOption

/-- The spelling names something. -/
def pathExists (tree : FileTree) (current : Location) (spelling : String) : Bool :=
  (tree.find? current spelling).isSome

/-- A place that resolving came to, and the way there: from the root, or from the current directory
with the steps up in front. -/
structure Stop where
  place : Location
  way : Path
  deriving DecidableEq, Repr

namespace Stop

/-- The root. -/
def atRoot : Stop := ⟨[], ⟨.slash, []⟩⟩

/-- Where a spelling starts when it stands at a stop. -/
def startOf (here : Stop) (spelling : String) : Stop :=
  if (Path.parse spelling).isAbsolute then atRoot else here

/-- One name further down. -/
def down (here : Stop) (name : String) : Stop := ⟨here.place ++ [name], here.way.child name⟩

/-- One step up. -/
def up (here : Stop) : Stop :=
  let names := here.way.names
  let kept := names.getLast?.any (· ≠ "..") || here.way.isAbsolute
  ⟨here.place.dropLast, { here.way with names := if kept then names.dropLast else names ++ [".."] }⟩

end Stop

/-- Names put back behind a place.  An empty name with others after it stands
for the root. -/
def rejoin (place : Location) : List String → Location
  | "" :: name :: rest => name :: rest
  | names => place ++ names

/-- How far resolving came: the stop, whether every link on the way was resolved, and what is known
of the links met so far.  Links are told apart by the way to them.  A link that is being resolved
has no stop yet. -/
structure Resolution where
  stop : Stop
  complete : Bool
  seen : List (Path × Option Stop)

/-- Resolve names from a link-free place; a link that was not met before is left to `enter`.  A link
inside its own resolution ends it: its name and the names after it are kept as they are. -/
def resolveNames (tree : FileTree)
    (enter : List (Path × Option Stop) → Stop → List String → Option Resolution) :
    (seen : List (Path × Option Stop)) → (here : Stop) → List String → Resolution
  | seen, here, [] => ⟨here, true, seen⟩
  | seen, here, name :: rest =>
    if name = "" ∨ name = "." then resolveNames tree enter seen here rest
    else if name = ".." then resolveNames tree enter seen here.up rest
    else
      let next := here.down name
      match tree.link? next.place with
      | none => resolveNames tree enter seen next rest
      | some target =>
        match seen.lookup next.way with
        | some (some stop) => resolveNames tree enter seen stop rest
        | some none => ⟨{ next with place := rejoin next.place rest }, false, seen⟩
        | none =>
          match enter ((next.way, none) :: seen) (here.startOf target) (Path.segments target) with
          | none => ⟨{ next with place := rejoin next.place rest }, false, seen⟩
          | some inner =>
            if inner.complete then
              let seen := (next.way, some inner.stop) :: inner.seen
              resolveNames tree enter seen inner.stop rest
            else ⟨{ inner.stop with place := rejoin inner.stop.place rest }, false, inner.seen⟩

/-- Resolve names from a link-free place, entering links one inside the other as far as the fuel
allows. -/
def resolveFrom (tree : FileTree) :
    (fuel : Nat) → (seen : List (Path × Option Stop)) → (here : Stop) → List String → Resolution
  | 0 => resolveNames tree fun _ _ _ => none
  | fuel + 1 => resolveNames tree fun seen here names => some (resolveFrom tree fuel seen here names)

/-- Enough for every link on every way to it. -/
def resolveFuel (tree : FileTree) (current : Location) : Nat :=
  tree.linkCount * (current.length + 2)

/-- Where resolving a path stops. -/
def stopOf (tree : FileTree) (current : Location) (p : Path) : Stop :=
  let start := if p.isAbsolute then Stop.atRoot else ⟨current, ⟨.relative, []⟩⟩
  (resolveFrom tree (tree.resolveFuel current) [] start p.names).stop

/-- The link-free place of a path.  Double dots left behind a chain of links that returns to itself
are followed lexically. -/
def resolve (tree : FileTree) (current : Location) (p : Path) : Location :=
  Location.follow [] (tree.stopOf current p).place

/-- The chain of links at a place returns to itself or is too long. -/
def isLinkLoop (tree : FileTree) (place : Location) : Bool :=
  match walkFrom tree true linkBudget [] place with
  | .error .tooManyLinks => true
  | _ => false

/-- Make the directories that lead to a place, those that are missing. -/
def makeDirectories (tree : FileTree) (place : Location) : FileTree :=
  (List.range place.length).foldl (fun tree n =>
    let above := place.take (n + 1)
    match tree.entryAt? above with
    | none => tree.put above .directory
    | some _ => tree) tree

/-- Put an entry at the place that a path resolves to, making the directories above it. -/
def putAt (tree : FileTree) (p : Path) (e : Entry) : FileTree :=
  let place := tree.resolve [] p
  (tree.makeDirectories place.dropLast).put place e

end FormatLauncher.FileTree

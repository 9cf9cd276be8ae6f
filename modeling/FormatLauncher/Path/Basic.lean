/-
# Paths

A path is a root, if it has one, and the names below it.  Reading a spelling drops empty names and
single dots; it keeps double dots, because what they mean depends on links.  Exactly two slashes at
the start are a root of their own.
-/

namespace FormatLauncher

/-- What a path starts from. -/
inductive PathRoot
  /-- The current directory. -/
  | relative
  /-- The root of the file tree. -/
  | slash
  /-- The root, spelled with exactly two slashes. -/
  | doubleSlash
  deriving DecidableEq, Repr

/-- A path: a root and the names below it. -/
structure Path where
  root : PathRoot
  names : List String
  deriving DecidableEq, Repr

/-- A place in the file tree, as the names that lead to it from the root. -/
abbrev Location := List String

namespace Path

/-- The names between the slashes of a spelling, the empty ones included. -/
def segmentChars : List Char → List (List Char)
  | [] => [[]]
  | '/' :: rest => [] :: segmentChars rest
  | c :: rest =>
    match segmentChars rest with
    | [] => [[c]]
    | segment :: segments => (c :: segment) :: segments

/-- The names between the slashes of a spelling, the empty ones included. -/
def segments (spelling : String) : List String :=
  (segmentChars spelling.toList).map String.ofList

/-- The root a spelling starts with. -/
def rootOf (spelling : String) : PathRoot :=
  match spelling.toList with
  | '/' :: '/' :: '/' :: _ => .slash
  | '/' :: '/' :: _ => .doubleSlash
  | '/' :: _ => .slash
  | _ => .relative

/-- Read a spelling. -/
def parse (spelling : String) : Path :=
  ⟨rootOf spelling, (segments spelling).filter fun name => name ≠ "" && name ≠ "."⟩

/-- The slashes a root is written with. -/
def rootText : PathRoot → String
  | .relative => ""
  | .slash => "/"
  | .doubleSlash => "//"

/-- The path in its shortest spelling; a single dot when nothing else is left. -/
def text (p : Path) : String :=
  let written := rootText p.root ++ "/".intercalate p.names
  if written = "" then "." else written

/-- The path does not depend on the current directory. -/
def isAbsolute (p : Path) : Bool := p.root ≠ .relative

/-- The last name of the path, empty when it has none. -/
def name (p : Path) : String := p.names.getLast?.getD ""

/-- A name below the path. -/
def child (p : Path) (name : String) : Path := { p with names := p.names ++ [name] }

/-- The path of a place. -/
def ofLocation (place : Location) : Path := ⟨.slash, place⟩

/-- The place of a path below a current directory, double dots not yet followed. -/
def placed (directory : Location) (p : Path) : Location :=
  if p.isAbsolute then p.names else directory ++ p.names

end Path

namespace Location

/-- The usual spelling of a place. -/
def text (place : Location) : String := (Path.ofLocation place).text

/-- The first place is the second or lies above it. -/
def contains (folder place : Location) : Bool := folder.isPrefixOf place

/-- The place after a directory was removed.  What went with that directory is still there for whoever
is in it, with the way up, but it has lost its name.  An empty name stands for a lost one, for no
spelling leads to it. -/
def afterRemoval (removed place : Location) : Location :=
  if removed.isPrefixOf place then
    removed.dropLast ++ List.replicate (place.length - removed.length + 1) ""
  else place

/-- The place has lost its name. -/
def isLost (place : Location) : Bool := place.any (· = "")

/-- One more name, a double dot going up; the root has nothing above it. -/
def stepLexically (place : Location) (name : String) : Location :=
  if name = ".." then place.dropLast
  else if name = "" ∨ name = "." then place
  else place ++ [name]

/-- Follow names without looking at the file tree. -/
def follow (start : Location) (names : List String) : Location :=
  names.foldl stepLexically start

end Location

end FormatLauncher

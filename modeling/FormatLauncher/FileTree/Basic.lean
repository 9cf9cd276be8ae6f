/-
# The file tree

A file tree maps places to entries: directories, files, programs and links.  A link holds its target
as it was written.  A program is known by a number only; what it does when it is run is not the
tree's business, but its mode is, like that of a file.
-/

import FormatLauncher.Path.Basic
import FormatLauncher.Text.Utf8

namespace FormatLauncher

/-- What stands at a place. -/
inductive Entry
  | directory
  | file (contents : Text.Bytes) (mode : Nat)
  | program (id : Nat) (mode : Nat)
  | link (target : String)
  deriving DecidableEq, Repr

namespace Entry

/-- A file or a program. -/
def isRegular : Entry → Bool
  | .file _ _ | .program _ _ => true
  | _ => false

/-- Some execute bit is set. -/
def isExecutable : Entry → Bool
  | .file _ mode | .program _ mode => mode / 64 % 2 = 1 || mode / 8 % 2 = 1 || mode % 2 = 1
  | _ => false

/-- The execute bit of the owner is set.  All files belong to whoever runs them, so this is the bit
that counts when a file is run or looked up to be run. -/
def isRunnable : Entry → Bool
  | .file _ mode | .program _ mode => mode / 64 % 2 = 1
  | _ => false

/-- The read bit of the owner is set. -/
def isReadable : Entry → Bool
  | .file _ mode | .program _ mode => mode / 256 % 2 = 1
  | _ => false

/-- The write bit of the owner is set. -/
def isWritable : Entry → Bool
  | .file _ mode | .program _ mode => mode / 128 % 2 = 1
  | _ => false

/-- What reading the entry gives; the text of a program is not modelled and reads as empty. -/
def contents? : Entry → Option Text.Bytes
  | .file contents _ => some contents
  | .program _ _ => some []
  | _ => none

/-- The entry with other contents; a program that is overwritten is a program no more. -/
def withContents (e : Entry) (contents : Text.Bytes) : Entry :=
  match e with
  | .file _ mode | .program _ mode => .file contents mode
  | other => other

/-- The entry with another mode. -/
def withMode (e : Entry) (mode : Nat) : Entry :=
  match e with
  | .file contents _ => .file contents mode
  | .program id _ => .program id mode
  | other => other

end Entry

/-- Places and what stands there, each place at most once. -/
structure FileTree where
  entries : List (Location × Entry)
  deriving Repr

namespace FileTree

/-- The place is a directory whatever the tree holds: the root, and one that has lost its name. -/
def isAlwaysDirectory (place : Location) : Bool := place = [] || place.getLast? = some ""

/-- What stands at a place. -/
def entryAt? (tree : FileTree) (place : Location) : Option Entry :=
  if isAlwaysDirectory place then some .directory else tree.entries.lookup place

/-- The target of the link at a place. -/
def link? (tree : FileTree) (place : Location) : Option String :=
  match tree.entryAt? place with
  | some (.link target) => some target
  | _ => none

/-- The number of links. -/
def linkCount (tree : FileTree) : Nat :=
  tree.entries.countP fun (_, e) => match e with
    | .link _ => true
    | _ => false

/-- Entries with one of them put at a place, in the place's own position if it has one. -/
def putEntry (place : Location) (e : Entry) : List (Location × Entry) → List (Location × Entry)
  | [] => [(place, e)]
  | (other, old) :: rest =>
    if other = place then (place, e) :: rest else (other, old) :: putEntry place e rest

/-- Put an entry at a place. -/
def put (tree : FileTree) (place : Location) (e : Entry) : FileTree :=
  ⟨putEntry place e tree.entries⟩

/-- Remove what stands at a place and everything below it. -/
def remove (tree : FileTree) (place : Location) : FileTree :=
  ⟨tree.entries.filter fun (other, _) => !place.isPrefixOf other⟩

/-- The places below a place, in no promised order. -/
def below (tree : FileTree) (place : Location) : List (Location × Entry) :=
  tree.entries.filter fun (other, _) => place.isPrefixOf other && other ≠ place

/-- Looking up after putting: the new entry at its place, the old ones elsewhere. -/
theorem lookup_putEntry (place other : Location) (e : Entry) (entries : List (Location × Entry)) :
    (putEntry place e entries).lookup other =
      if other = place then some e else entries.lookup other := by
  induction entries with
  | nil =>
    by_cases h : other = place
    · subst h; simp [putEntry]
    · have hbeq : (other == place) = false := by simpa using h
      simp [putEntry, List.lookup_cons, hbeq, h]
  | cons head rest ih =>
    obtain ⟨first, old⟩ := head
    simp only [putEntry]
    by_cases hfirst : first = place
    · subst hfirst
      by_cases h : other = first
      · simp [h]
      · have hbeq : (other == first) = false := by simpa using h
        simp [List.lookup_cons, hbeq, h]
    · simp only [hfirst, if_false, List.lookup_cons]
      by_cases h : other = first
      · subst h; simp [hfirst]
      · have hbeq : (other == first) = false := by simpa using h
        simp [hbeq, ih]

/-- Putting an entry shows at its place and nowhere else. -/
theorem entryAt?_put (tree : FileTree) {place : Location} (other : Location) (e : Entry)
    (hplace : isAlwaysDirectory place = false) :
    (tree.put place e).entryAt? other = if other = place then some e else tree.entryAt? other := by
  unfold entryAt? put
  by_cases hother : isAlwaysDirectory other = true
  · have hne : other ≠ place := fun h => by simp [h, hplace] at hother
    simp [hother, hne]
  · simp [hother, lookup_putEntry]

end FileTree

end FormatLauncher

/-
# Editing a file tree

Files, programs, directories and links are put at paths, removed, and given other modes; what a path
needs above it is made.  Links on the way are followed, and the last name is followed where the
entry itself is meant to be reached, not where it is to be made or removed.
-/

import FormatLauncher.FileTree.Walk

namespace FormatLauncher.FileTree

/-- The place of a path's last name, the links above it followed. -/
def ownPlace (tree : FileTree) (p : Path) : Location :=
  tree.resolve [] { p with names := p.names.dropLast } ++ p.names.getLast?.toList

/-- Make the directory of a path. -/
def addDirectory (tree : FileTree) (p : Path) : FileTree := tree.makeDirectories (tree.resolve [] p)

/-- Make a link. -/
def addLink (tree : FileTree) (p : Path) (target : String) : FileTree :=
  let place := tree.ownPlace p
  (tree.makeDirectories place.dropLast).put place (.link target)

/-- Change the mode of the file that a path leads to. -/
def changeMode (tree : FileTree) (p : Path) (mode : Nat) : FileTree :=
  let place := tree.resolve [] p
  match tree.entryAt? place with
  | some e => tree.put place (e.withMode mode)
  | none => tree

/-- The regular files below a path, with their paths in order.  A link to a file counts as a file,
and a link to a directory is not followed. -/
def filesBelow (tree : FileTree) (p : Path) : List (String × Entry) :=
  let top := tree.resolve [] p
  let listed := (tree.below top).filterMap fun (place, _) =>
    match tree.find? [] place.text with
    | some (_, e) =>
      if e.isRegular then some ("/".intercalate (p.text :: place.drop top.length), e) else none
    | none => none
  listed.mergeSort fun a b => decide (a.1 ≤ b.1)

end FormatLauncher.FileTree

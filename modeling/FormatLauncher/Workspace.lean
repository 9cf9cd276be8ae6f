/-
# Workspaces

A workspace has a root, if one is configured, and named folders.  A document belongs to the deepest
folder that contains it, and of equally deep ones to the first.
-/

import FormatLauncher.Path.Home
import FormatLauncher.World

namespace FormatLauncher

/-- A named folder. -/
structure Folder where
  name : String
  place : Location
  deriving DecidableEq, Repr

/-- A root and named folders. -/
structure Workspace where
  root : Option Location
  folders : List Folder
  deriving DecidableEq, Repr

namespace Workspace

/-- The place a spelling stands for in a world. -/
def expand (w : World) (spelling : String) : Except Failure Location :=
  w.files.expand w.environment w.directory (Path.parse spelling)

/-- The places of named folders. -/
def expandFolders (w : World) : List (String × String) → Except Failure (List Folder)
  | [] => .ok []
  | (name, spelling) :: rest =>
    match expand w spelling with
    | .error failure => .error failure
    | .ok place => (expandFolders w rest).map (⟨name, place⟩ :: ·)

/-- The workspace of configured paths; an empty root is no root. -/
def ofPaths (w : World) (root : Option String) (folders : Bindings) : Except Failure Workspace :=
  match root.filter (· ≠ "") with
  | none => (expandFolders w folders).map fun folders => ⟨none, folders⟩
  | some spelling =>
    match expand w spelling with
    | .error failure => .error failure
    | .ok place => (expandFolders w folders).map fun folders => ⟨some place, folders⟩

/-- The name of a root among the folders: its last name, or its whole text. -/
def rootName (place : Location) : String :=
  match place.getLast? with
  | some name => name
  | none => place.text

/-- The named folders, and the root under its own name unless it is one of them or its name is
taken. -/
def allFolders (workspace : Workspace) : List Folder :=
  match workspace.root with
  | none => workspace.folders
  | some root =>
    let name := rootName root
    if workspace.folders.any fun folder => folder.place = root || folder.name = name then
      workspace.folders
    else workspace.folders ++ [⟨name, root⟩]

/-- The folder kept so far, after one more: a containing folder that is deeper takes over. -/
def keepDeeper (target : Location) (best : Option Folder) (folder : Folder) : Option Folder :=
  if folder.place.contains target then
    match best with
    | none => some folder
    | some kept => if kept.place.length < folder.place.length then some folder else some kept
  else best

/-- The folder of a place. -/
def folderAt (workspace : Workspace) (target : Location) : Option Folder :=
  workspace.allFolders.foldl (keepDeeper target) none

/-- The folder of a document; text that is in no document belongs to none. -/
def folderFor (workspace : Workspace) (w : World) (document : Option Path) :
    Except Failure (Option Folder) :=
  match document with
  | none => .ok none
  | some p =>
    match w.files.expand w.environment w.directory p with
    | .error failure => .error failure
    | .ok target => .ok (workspace.folderAt target)

/-- All folders as texts. -/
def folderTexts (workspace : Workspace) : Bindings :=
  workspace.allFolders.map fun folder => (folder.name, folder.place.text)

end Workspace

end FormatLauncher

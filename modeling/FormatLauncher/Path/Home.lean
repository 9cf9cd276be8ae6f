/-
# Paths below the home directory

A path whose first name starts with a tilde starts from a home directory: a bare tilde from that of
the environment, with slashes at its end dropped.  Other users have no home here, so a tilde with a
name after it fails, and so does a home that itself starts with a tilde.
-/

import FormatLauncher.Bindings
import FormatLauncher.Failure
import FormatLauncher.FileTree.Walk

namespace FormatLauncher

namespace Path

/-- A text without the slashes at its end. -/
def dropSlashes (text : String) : String :=
  String.ofList (text.toList.reverse.dropWhile (· = '/')).reverse

/-- The home directory that a first name stands for. -/
def homeFor? (environment : Bindings) (name : String) : Option String :=
  if name = "~" then
    (environment.get? "HOME").map fun home =>
      let bare := dropSlashes home
      if bare = "" then "/" else bare
  else none

/-- The path with its tilde replaced by the home directory. -/
def expandHome (environment : Bindings) (p : Path) : Except Failure Path :=
  match p.root, p.names with
  | .relative, name :: rest =>
    if name.toList.head? ≠ some '~' then .ok p
    else
      match homeFor? environment name with
      | none => .error .homeUnknown
      | some home =>
        if home.toList.head? = some '~' then .error .homeUnknown
        else
          let start := Path.parse home
          .ok { start with names := start.names ++ rest }
  | _, _ => .ok p

end Path

/-- The current directory, for what needs its name. -/
def Location.named (current : Location) : Except Failure Location :=
  if current.isLost then .error (.system .noCurrentDirectory) else .ok current

/-- The link-free place of a path, its tilde replaced first.  It fails for an unknown home, for a
path that holds a NUL, for links that lead back to themselves, and for a path that depends on a
current directory without a name. -/
def FileTree.expand (tree : FileTree) (environment : Bindings) (current : Location) (p : Path) :
    Except Failure Location :=
  match p.expandHome environment with
  | .error failure => .error failure
  | .ok p =>
    if p.names.any Spelling.hasNul then .error .embeddedNul
    else if current.isLost && !(tree.stopOf current p).way.isAbsolute then
      .error (.system .noCurrentDirectory)
    else
      let place := tree.resolve current p
      if tree.isLinkLoop place then .error (.linkLoop place.text) else .ok place

end FormatLauncher

/-
# Path spellings

Commands are handled as texts, not as paths: whether a text holds a slash decides how it is looked
up, so joining and cutting must keep the spelling.  An absolute spelling is made by following dots
without looking at the file tree.
-/

import FormatLauncher.Path.Basic

namespace FormatLauncher.Spelling

/-- The two habits of writing paths. -/
inductive Convention
  /-- A slash separates names. -/
  | slash
  /-- A backslash separates names, and a slash is allowed. -/
  | backslash
  deriving DecidableEq, Repr

/-- The text holds a separator, so it is a path and not a bare name. -/
def hasSeparator (convention : Convention) (command : String) : Bool :=
  match convention with
  | .slash => command.toList.contains '/'
  | .backslash => command.toList.contains '\\' || command.toList.contains '/'

/-- The part of a spelling before its last name, slashes at its end dropped unless nothing else is
left. -/
def directory (spelling : String) : String :=
  let reversed := spelling.toList.reverse
  let head := reversed.dropWhile (· ≠ '/')
  let bare := head.dropWhile (· = '/')
  String.ofList (if bare = [] then head.reverse else bare.reverse)

/-- A name put below a directory; a name that starts with a slash stands alone. -/
def join (directory name : String) : String :=
  if name.toList.head? = some '/' then name
  else if directory = "" ∨ directory.toList.getLast? = some '/' then directory ++ name
  else directory ++ "/" ++ name

/-- The absolute path of a spelling below a current directory, dots followed lexically. -/
def absolute (current : Location) (spelling : String) : Path :=
  let p := Path.parse spelling
  if p.isAbsolute then ⟨p.root, Location.follow [] p.names⟩
  else ⟨.slash, Location.follow current p.names⟩

/-- The text holds the character that no file name can. -/
def hasNul (spelling : String) : Bool := spelling.toList.contains '\x00'

end FormatLauncher.Spelling

/-
# Tools

A tool is a formatter that can be located: the name of its command, the arguments that make it print
its version, and what to tell a user who does not have it.
-/

namespace FormatLauncher

/-- A formatter that can be located. -/
structure Tool where
  name : String
  binary : String
  description : String
  installHint : String
  versionArguments : List String
  deriving DecidableEq, Repr

namespace Tool

/-- Where the formatter can be found. -/
def installUrl : String := "https://github.com/tconbeer/sqlfmt"

/-- The hint that is given when a tool has none of its own. -/
def genericHint : String := "Please install shandy-sqlfmt (" ++ installUrl ++ ") first."

/-- The arguments that make most tools print their version. -/
def usualVersionArguments : List String := ["--version"]

/-- The tool that is used when no other is asked for. -/
def sqlfmt : Tool where
  name := "sqlfmt"
  binary := "sqlfmt"
  description := "Opinionated SQL formatter (shandy-sqlfmt)"
  installHint := "Install with: pip install shandy-sqlfmt (see " ++ installUrl ++ ")"
  versionArguments := usualVersionArguments

/-- The registered tools. -/
def registry : List Tool := [sqlfmt]

/-- The registered tool of a name. -/
def find? (name : String) : Option Tool := registry.find? fun tool => tool.name = name

end Tool

end FormatLauncher

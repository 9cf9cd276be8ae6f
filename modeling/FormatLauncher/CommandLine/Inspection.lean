/-
# Commands about the configuration

The configuration can be checked, the formatter looked for, and the settings shown with the command
line they lead to.  The formatter is looked for as for a request, but outside of every workspace
folder and without insisting that placeholders are known; only showing the command line insists.
-/

import FormatLauncher.CommandLine.Formatting

namespace FormatLauncher.CommandLine

/-- Look for a tool. -/
def resolve (s : Setup) (tool : Tool) : Session Locator.Resolved := do
  let f ← s.formatter tool
  Session.perform (f.resolveCommand none .quiet)

/-- Show the problems of the configuration. -/
def showIssues (issues : List String) : Session Unit := do
  if issues.isEmpty then
    Session.printLine "✓ Configuration structure is valid"
  else
    Session.printLine "Structure Issues:"
    for issue in issues do
      Session.printLine ("  ⚠️  " ++ issue)
  Session.printLine ""

/-- Check the configuration and look for the formatter. -/
def validate (s : Setup) : Session Unit := do
  Session.printLine "Validating configuration..."
  Session.printLine ""
  let issues ← Session.perform (Action.ofExcept (Settings.issues s.config))
  showIssues issues
  let resolved ← resolve s Tool.sqlfmt
  Session.printLine "Formatter:"
  if !resolved.isAvailable then
    Session.printLine ("  ✗ " ++ resolved.path ++ " not found or not executable")
    Session.exit 1
  Session.printLine ("  ✓ " ++ resolved.path)
  Session.printLine ""
  Session.printLine "Configuration validation complete!"

/-- Look for the formatter. -/
def check (s : Setup) : Session Unit := do
  let resolved ← resolve s Tool.sqlfmt
  if !resolved.isAvailable then
    Session.printLine ("✗ " ++ resolved.path ++ " is not available")
    Session.printLine ("  " ++ Tool.sqlfmt.installHint)
    Session.exit 1
  Session.printLine ("✓ " ++ resolved.path)

/-- What is shown for something that is not set. -/
def unset : String := "-"

/-- A text as a setting; an empty one counts as not set. -/
def shownText (text : String) : String := if text = "" then unset else text

/-- A limit as a setting; zero counts as not set. -/
def shownLimit (limit : Option Binary64) : String :=
  match limit with
  | some x => if x.isZero then unset else x.toBriefText ++ "s"
  | none => unset

/-- The rows of the table of settings. -/
def settingRows (f : Formatter) : List (String × String) :=
  let s := f.settings
  [("path", (s.path.map shownText).getD unset), ("args", shownText (" ".intercalate s.arguments)),
    ("workspace", (f.workspace.root.map Location.text).getD unset)]
    ++ f.workspace.folders.map
      (fun folder => ("workspace_folders." ++ folder.name, folder.place.text))
    ++ [("timeout", shownLimit s.limit), ("probe_timeout", shownLimit s.probeLimit),
      ("strict_variables", if s.strict then "true" else "false")]

/-- The markup of a command line. -/
def commandMarkup (invocation : Invocation) : String :=
  "\nCommand: [bold]" ++ Console.Markup.escape invocation.command ++ "[/bold] "
    ++ Console.Markup.escape (" ".intercalate invocation.arguments)

/-- The markup of a failure to find a command line. -/
def failureMarkup (failure : Failure) : String :=
  "\n[red]✗[/red] " ++ Console.Markup.escape failure.message

/-- Show the settings and the command line they lead to. -/
def present (s : Setup) : Session Unit := do
  let f ← s.formatter Tool.sqlfmt
  match Console.Table.render (settingRows f) with
  | .error failure => throw (.failed failure)
  | .ok table => Session.printRich table
  match ← Session.attempt (f.prepare none .quiet) with
  | .ok invocation => Session.printMarkup (commandMarkup invocation)
  | .error failure =>
    if !failure.isFormatting then
      throw (.failed failure)
    Session.perform (Action.say .debug ("Could not resolve command: " ++ failure.message))
    Session.printMarkup (failureMarkup failure)
    Session.exit 1

/-- Show the registered tools. -/
def tools (s : Setup) : Session Unit := do
  Session.printLine "Registered Tools:"
  Session.printLine ""
  for tool in Tool.registry do
    let resolved ← resolve s tool
    let status := if resolved.isAvailable then "✓ Installed" else "✗ Not installed"
    Session.printLine (tool.name ++ " - " ++ status)
    Session.printLine ("  Description: " ++ tool.description)
    Session.printLine ("  Path: " ++ resolved.path)
    if !resolved.isAvailable then
      Session.printLine ("  Install: " ++ tool.installHint)
    Session.printLine ""

end FormatLauncher.CommandLine

/-
# What a command line asks for

A command line names a command, and the command reads the arguments after its own name.  The options
before the name concern every command: they are dealt with first, the configuration is loaded, and
only then are the command's own arguments looked at.
-/

import FormatLauncher.CommandLine.Options

namespace FormatLauncher.CommandLine

/-- The options that concern every command. -/
structure General where
  config : Option String
  interpreter : Option String
  verbose : Bool
  deriving DecidableEq, Repr

/-- The commands. -/
inductive Command
  | format
  | workspace
  | config
  | version
  deriving DecidableEq, Repr

/-- The names of the commands. -/
def commandNames : List (String × Command) := [
  ("version", .version), ("format", .format), ("workspace", .workspace), ("config", .config)]

/-- What to do with files. -/
structure FormatTask where
  files : List String
  check : Bool
  inPlace : Bool
  inputName : Option String
  deriving DecidableEq, Repr

/-- What a command is to do. -/
inductive Task
  | format (task : FormatTask)
  | workspace (root : Option String)
  | validate
  | check
  | present
  | tools
  | version
  deriving DecidableEq, Repr

/-- The subcommands about the configuration. -/
def configTasks : List (String × Task) := [
  ("validate", .validate), ("check", .check), ("show", .present), ("tools", .tools)]

/-- What comes of reading arguments. -/
inductive Request (α : Type)
  | run (value : α)
  | help
  | misuse
  deriving Repr

/-- The configuration file. -/
def configOption : Opt := ⟨"--config", some 'c', true⟩

/-- The interpreter whose formatter is used. -/
def interpreterOption : Opt := ⟨"--interpreter", none, true⟩

/-- A more detailed log. -/
def verboseOption : Opt := ⟨"--verbose", some 'v', false⟩

/-- The options before a command's name. -/
def generalOptions : List Opt := [configOption, interpreterOption, verboseOption, helpOption]

/-- Report without writing. -/
def checkOption : Opt := ⟨"--check", none, false⟩

/-- Let the formatter write. -/
def inPlaceOption : Opt := ⟨"--in-place", none, false⟩

/-- The file that text from the input belongs to. -/
def inputNameOption : Opt := ⟨"--stdin-filename", none, true⟩

/-- The options of formatting. -/
def formatOptions : List Opt := [checkOption, inPlaceOption, inputNameOption, helpOption]

/-- The options of every other command: none but help. -/
def helpOnly : List Opt := [helpOption]

/-- Arguments that name no command.  They are looked at once more, as options; what they ask for is
help or nothing that can be done. -/
def strayArguments {α : Type} (known : List Opt) (arguments : List String) : Request α :=
  match readOptions known false arguments with
  | some given => if given.has helpOption then .help else .misuse
  | none => .misuse

/-- A named choice among the arguments that options have left. -/
def choose {α : Type} (known : List Opt) (choices : List (String × α)) (rest : List String) :
    Request (α × List String) :=
  match rest with
  | [] => .misuse
  | name :: arguments =>
    match choices.lookup name with
    | some choice => .run (choice, arguments)
    | none => strayArguments known rest

/-- The general options, the command, and the command's own arguments. -/
def readGeneral (arguments : List String) : Request (General × Command × List String) :=
  match readOptions generalOptions false arguments with
  | none => .misuse
  | some given =>
    if given.has helpOption then .help
    else
      match choose generalOptions commandNames given.rest with
      | .help => .help
      | .misuse => .misuse
      | .run (command, rest) =>
        .run (⟨given.value? configOption, given.value? interpreterOption, given.has verboseOption⟩,
          command, rest)

/-- The task of formatting; without files there is nothing to do but to help. -/
def readFormat (arguments : List String) : Request Task :=
  match readOptions formatOptions false arguments with
  | none => .misuse
  | some given =>
    if given.has helpOption || given.rest.isEmpty then .help
    else
      .run (.format ⟨given.rest, given.has checkOption, given.has inPlaceOption,
        given.value? inputNameOption⟩)

/-- The task of formatting a workspace. -/
def readWorkspace (arguments : List String) : Request Task :=
  match readOptions helpOnly false arguments with
  | none => .misuse
  | some given =>
    if given.has helpOption then .help
    else
      match given.rest with
      | [] => .run (.workspace none)
      | [root] => .run (.workspace (some root))
      | _ :: stray => strayArguments helpOnly stray

/-- A task without arguments of its own. -/
def readBare (task : Task) (arguments : List String) : Request Task :=
  match readOptions helpOnly true arguments with
  | none => .misuse
  | some given =>
    if given.has helpOption then .help
    else if given.rest.isEmpty then .run task
    else .misuse

/-- A task about the configuration. -/
def readConfig (arguments : List String) : Request Task :=
  match readOptions helpOnly false arguments with
  | none => .misuse
  | some given =>
    if given.has helpOption then .help
    else
      match choose helpOnly configTasks given.rest with
      | .help => .help
      | .misuse => .misuse
      | .run (task, rest) => readBare task rest

/-- The task of a command with its arguments. -/
def Command.read (command : Command) (arguments : List String) : Request Task :=
  match command with
  | .format => readFormat arguments
  | .workspace => readWorkspace arguments
  | .config => readConfig arguments
  | .version => readBare .version arguments

end FormatLauncher.CommandLine

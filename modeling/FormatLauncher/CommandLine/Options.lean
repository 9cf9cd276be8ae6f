/-
# Options

Options stand before positional arguments.  A long option takes its value after an equals sign or as
the next argument; short options can be written together, and the rest of such a group, or the next
argument, is the value of the first one that takes a value.  Two hyphens alone end the options.
Unknown options and missing values are misuse, found before anything is done.
-/

namespace FormatLauncher.CommandLine

/-- An option: how it is written, and whether it takes a value. -/
structure Opt where
  long : String
  short : Option Char
  takesValue : Bool
  deriving DecidableEq, Repr

/-- The option that asks for help. -/
def helpOption : Opt := ⟨"--help", none, false⟩

/-- Options as they were given, in order, and the arguments that are left. -/
structure Given where
  options : List (String × Option String)
  rest : List String
  deriving DecidableEq, Repr

namespace Given

/-- The option was given. -/
def has (g : Given) (o : Opt) : Bool := g.options.any fun (name, _) => name = o.long

/-- The last value of an option. -/
def value? (g : Given) (o : Opt) : Option String :=
  g.options.foldl (fun found (name, value) => if name = o.long then value else found) none

/-- One more option before others. -/
def cons (name : String) (value : Option String) (g : Given) : Given :=
  { g with options := (name, value) :: g.options }

/-- One more positional argument before others. -/
def keep (argument : String) (g : Given) : Given := { g with rest := argument :: g.rest }

end Given

/-- The name of a long option and the value that is written behind an equals sign. -/
def splitLong (argument : List Char) : List Char × Option (List Char) :=
  match argument.dropWhile (· ≠ '=') with
  | _ :: value => (argument.takeWhile (· ≠ '='), some value)
  | [] => (argument, none)

/-- A group of short options: those without a value, and perhaps a last one with the text that is
written behind it; none for an unknown option. -/
def splitShort (known : List Opt) : List Char → Option (List Opt × Option (Opt × List Char))
  | [] => some ([], none)
  | c :: rest =>
    match known.find? fun o => o.short = some c with
    | none => none
    | some o =>
      if o.takesValue then some ([], some (o, rest))
      else (splitShort known rest).map fun (flags, last) => (o :: flags, last)

/-- What an argument that starts with a hyphen asks for. -/
inductive Meaning
  /-- Options that are complete. -/
  | complete (options : List (String × Option String))
  /-- Options, and the last of them takes the next argument as its value. -/
  | needsNext (options : List (String × Option String)) (last : String)
  | misuse

/-- The meaning of a group of short options. -/
def shortMeaning (known : List Opt) (group : List Char) : Meaning :=
  match splitShort known group with
  | none => .misuse
  | some (flags, last) =>
    let options := flags.map fun o => (o.long, none)
    match last with
    | none => .complete options
    | some (o, []) => .needsNext options o.long
    | some (o, value) => .complete (options ++ [(o.long, some (String.ofList value))])

/-- The meaning of an argument that starts with a hyphen. -/
def meaning (known : List Opt) (argument : String) : Meaning :=
  let chars := argument.toList
  let (name, value) := splitLong chars
  match known.find? fun o => o.long = String.ofList name with
  | some o =>
    if o.takesValue then
      match value with
      | some value => .complete [(o.long, some (String.ofList value))]
      | none => .needsNext [] o.long
    else if value.isSome then .misuse
    else .complete [(o.long, none)]
  | none => if ['-', '-'].isPrefixOf chars then .misuse else shortMeaning known chars.tail

/-- The argument is an option: it starts with a hyphen and is more than that. -/
def isOption (argument : String) : Bool :=
  argument.toList.head? = some '-' && argument ≠ "-"

/-- Put options before what comes after them. -/
def prepend (options : List (String × Option String)) (g : Given) : Given :=
  { g with options := options ++ g.options }

/-- Read options; none for misuse.  If `interspersed`, options may also follow positional
arguments. -/
def readOptions (known : List Opt) (interspersed : Bool) : List String → Option Given
  | [] => some ⟨[], []⟩
  | argument :: rest =>
    if argument = "--" then some ⟨[], rest⟩
    else if isOption argument then
      match meaning known argument with
      | .misuse => none
      | .complete options => (readOptions known interspersed rest).map (prepend options)
      | .needsNext options last =>
        match rest with
        | [] => none
        | value :: rest =>
          (readOptions known interspersed rest).map (prepend (options ++ [(last, some value)]))
    else if interspersed then (readOptions known interspersed rest).map (·.keep argument)
    else some ⟨[], argument :: rest⟩

end FormatLauncher.CommandLine

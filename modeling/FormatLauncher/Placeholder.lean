/-
# Placeholders

Configured texts may hold tokens such as a dollar sign and a name in braces.  A table binds tokens
to the texts they stand for.  Expanding a text goes through the table once, in order, and replaces
the first occurrence of each token.  The element that is exactly the interpreter token stands for
the whole list of interpreters.  Groups that look like tokens and are still there afterwards are the
leftovers; lenient expansion warns of them, strict expansion fails.
-/

import FormatLauncher.Text.Replace
import FormatLauncher.World

namespace FormatLauncher.Placeholder

/-- What the tokens stand for. -/
structure Context where
  environment : Bindings
  directory : String
  root : Option String
  folders : Bindings
  deriving DecidableEq, Repr

/-- The home directory: the first of two variables that is set to something. -/
def Context.home? (context : Context) : Option String :=
  (context.environment.getNonempty? "HOME").or (context.environment.getNonempty? "USERPROFILE")

/-- A token: a dollar sign and a name in braces. -/
def token (name : String) : String := "$\x7b" ++ name ++ "\x7d"

/-- The element that stands for the list of interpreters. -/
def interpreterToken : String := token "interpreter"

/-- The tokens in the order in which they are replaced: home, workspace, current directory, named
folders, variables.  Variables that are set to nothing have no token. -/
def table (context : Context) : Bindings :=
  let home := context.home?.toList.map fun home => (token "userHome", home)
  let root := (context.root.filter (· ≠ "")).toList.map fun root => (token "workspaceFolder", root)
  let directory := [(token "cwd", context.directory)]
  let folders := context.folders.map
    fun (name, folder) => (token ("workspaceFolder:" ++ name), folder)
  let bound := (context.environment.filter fun (_, value) => value ≠ "").map
    fun (name, value) => (token ("env:" ++ name), value)
  home ++ root ++ directory ++ folders ++ bound

/-- One text with the tokens of a table replaced, each at its first occurrence. -/
def expandChars (table : Bindings) (text : List Char) : List Char :=
  table.foldl (fun text (token, replacement) =>
    Text.replaceFirst token.toList replacement.toList text) text

/-- One text with the tokens of a table replaced, each at its first occurrence. -/
def expand (table : Bindings) (text : String) : String :=
  String.ofList (expandChars table text.toList)

/-- The elements with the interpreters in place of their token, if there are known ones. -/
def splice (interpreter : Option (List String)) (values : List String) : List String :=
  match interpreter with
  | none => values
  | some paths => values.flatMap fun value => if value = interpreterToken then paths else [value]

/-- A group at the start of a text: the body between the braces, and what follows. -/
def groupAt? (text : List Char) : Option (List Char × List Char) :=
  match text with
  | '$' :: '{' :: rest =>
    let body := rest.takeWhile (· ≠ '}')
    match rest.dropWhile (· ≠ '}') with
    | _ :: after => if body = [] then none else some (body, after)
    | [] => none
  | _ => none

/-- What follows a group is shorter than the text. -/
theorem length_lt_of_groupAt? {text body after : List Char}
    (h : groupAt? text = some (body, after)) : after.length < text.length := by
  unfold groupAt? at h
  split at h
  · next rest =>
    simp only at h
    split at h
    · next c tail htail =>
      split at h
      · simp at h
      · simp only [Option.some.injEq, Prod.mk.injEq] at h
        have hle := (List.dropWhile_sublist (l := rest) (· ≠ '}')).length_le
        rw [htail] at hle
        simp only [List.length_cons] at hle ⊢
        rw [← h.2]
        omega
    · simp at h
  · simp at h

/-- The groups of a text, leftmost first, none overlapping another. -/
def groups (text : List Char) : List (List Char) :=
  match text with
  | [] => []
  | c :: rest =>
    match _hgroup : groupAt? (c :: rest) with
    | some (body, after) => ('$' :: '{' :: body ++ ['}']) :: groups after
    | none => groups rest
termination_by text.length
decreasing_by
  · exact length_lt_of_groupAt? _hgroup
  · simp

/-- Texts in order, each once. -/
def sortedOnce (texts : List String) : List String :=
  (texts.mergeSort fun a b => decide (a ≤ b)).eraseDups

/-- Expanded texts and the tokens left over in them. -/
structure Expansion where
  texts : List String
  leftovers : List String
  deriving DecidableEq, Repr

/-- Expand texts. -/
def expandAll (values : List String) (context : Context) (interpreter : Option (List String)) :
    Expansion :=
  let texts := (splice interpreter values).map (expand (table context))
  ⟨texts, sortedOnce (texts.flatMap fun text => (groups text.toList).map String.ofList)⟩

/-- The texts of an expansion: leftovers are a failure if strict, and otherwise a warning. -/
def Expansion.settle (expansion : Expansion) (strict : Bool) : Action (List String) := do
  if expansion.leftovers = [] then
    return expansion.texts
  if strict then
    throw (.configuration (.unresolved expansion.leftovers))
  Action.say .warning
    ("Unresolved variables left as-is: " ++ Value.textsLiteral expansion.leftovers)
  return expansion.texts

/-- Expand texts, strictly or leniently. -/
def resolve (values : List String) (context : Context) (interpreter : Option (List String))
    (strict : Bool) : Action (List String) :=
  (expandAll values context interpreter).settle strict

end FormatLauncher.Placeholder

/-
# Scripted programs

A script describes by data what a formatter does: how it answers a version query, how it changes
text, and what it prints besides.  Given a dash as its last argument it changes its input into its
output; otherwise its arguments name files, or directories with files, that it changes in place.
-/

import FormatLauncher.World

namespace FormatLauncher

/-- How a script changes text. -/
inductive Change
  /-- One word a line, indented after the first; text with a syntax error is refused. -/
  | words
  | keep
  /-- ASCII letters become capitals. -/
  | capitals
  /-- The same output for every input. -/
  | constant (output : Text.Bytes)
  /-- Nothing: the script never ends. -/
  | hang
  deriving Repr

/-- How a script answers a version query; none when it never does. -/
abbrev VersionAnswer := Option Int

/-- What a script does. -/
structure Script where
  versionArguments : List String
  version : VersionAnswer
  change : Change
  errors : Text.Bytes
  code : Int
  /-- The script takes its input as empty. -/
  deaf : Bool
  deriving Repr

namespace Script

/-- The words of a text of bytes, in order. -/
def splitWords : Text.Bytes → List Text.Bytes
  | [] => []
  | b :: rest =>
    if Text.isBlankByte b then splitWords rest
    else
      match rest with
      | [] => [[b]]
      | next :: _ =>
        if Text.isBlankByte next then [b] :: splitWords rest
        else
          match splitWords rest with
          | [] => [[b]]
          | word :: words => (b :: word) :: words

/-- The bytes of an ASCII text. -/
def ascii (text : String) : Text.Bytes := Text.Utf8.encode text

/-- The needle stands somewhere in the text. -/
def occurs (needle : Text.Bytes) : Text.Bytes → Bool
  | [] => needle.isEmpty
  | b :: rest => needle.isPrefixOf (b :: rest) || occurs needle rest

/-- Text that the words change refuses. -/
def hasSyntaxError (text : Text.Bytes) : Bool := occurs (ascii "syntax error") text

/-- An ASCII letter as a capital. -/
def capital (b : UInt8) : UInt8 := if 0x61 ≤ b ∧ b ≤ 0x7A then b - 0x20 else b

/-- The changed text; none when it is refused. -/
def apply (change : Change) (text : Text.Bytes) : Option Text.Bytes :=
  match change with
  | .words =>
    if hasSyntaxError text then none
    else
      match splitWords text with
      | [] => some []
      | words => some ((ascii "\n    ").intercalate words ++ ascii "\n")
  | .keep | .hang => some text
  | .capitals => some (text.map capital)
  | .constant output => some output

/-- An exit code as the system reports it; death by a signal is a negative code. -/
def reportedCode (code : Int) : Int := if code < 0 then code else code % 256

/-- The place of the file that an entry of a directory listing stands for. -/
def listedFile? (tree : FileTree) (place : Location) : Option Location :=
  match walkedPlace with
  | .ok found => if (tree.entryAt? found).any Entry.isRegular then some found else none
  | .error _ => none
where
  /-- The place at the end of the links at `place`. -/
  walkedPlace : Except FileTree.WalkFault Location :=
    tree.walkFrom true FileTree.linkBudget [] place

/-- Dictionary order of places. -/
def placeLe (a b : Location) : Bool := !List.lex b a fun x y => decide (x < y)

/-- The files that a target stands for, in order; none when there is no such target. -/
def targetFiles (tree : FileTree) (directory : Location) (target : String) :
    Option (List Location) :=
  match tree.find? directory target with
  | none => none
  | some (place, .directory) =>
    let places := ((tree.below place).map (·.1)).mergeSort placeLe
    let listed := places.filter fun p => (p.getLast?.getD "").endsWith ".sql"
    some (listed.filterMap (listedFile? tree))
  | some (place, _) => some [place]

/-- How far changing files in place came. -/
inductive Progress
  | done (tree : FileTree)
  | refused (tree : FileTree)
  | missing (tree : FileTree) (target : String)

/-- Change files in place, one after the other, until one is refused. -/
def changeFiles (change : Change) (tree : FileTree) : List Location → Progress
  | [] => .done tree
  | place :: rest =>
    match tree.entryAt? place with
    | none => changeFiles change tree rest
    | some e =>
      match apply change (e.contents?.getD []) with
      | none => .refused tree
      | some changed => changeFiles change (tree.put place (e.withContents changed)) rest

/-- Change targets in place, one after the other, until one is missing or refused. -/
def changeTargets (change : Change) (directory : Location) (tree : FileTree) :
    List String → Progress
  | [] => .done tree
  | target :: rest =>
    match targetFiles tree directory target with
    | none => .missing tree target
    | some places =>
      match changeFiles change tree places with
      | .done tree => changeTargets change directory tree rest
      | stopped => stopped

/-- The end of a run whose text is refused. -/
def refusal (tree : FileTree) : Finish :=
  ⟨2, [], ascii "Error: could not parse line 1\n", tree⟩

/-- The end of a run that answers a version query. -/
def versionFinish (code : Int) (tree : FileTree) : Finish :=
  ⟨reportedCode code, ascii "sqlfmt, version 0.0.0\n", [], tree⟩

/-- The arguments that name targets. -/
def targets (arguments : List String) : List String :=
  arguments.filter fun a => a.toList.head? ≠ some '-'

/-- What a script does with a call. -/
def toProgram (script : Script) : Program := fun call tree =>
  if call.arguments = script.versionArguments then
    script.version.map fun code => versionFinish code tree
  else
    match script.change with
    | .hang => none
    | change =>
      if call.arguments.getLast? = some "-" then
        match apply change (if script.deaf then [] else call.input) with
        | none => some (refusal tree)
        | some output => some ⟨reportedCode script.code, output, script.errors, tree⟩
      else
        let names := targets call.arguments
        match changeTargets change call.directory tree names with
        | .refused tree => some (refusal tree)
        | .missing tree target =>
          some ⟨1, [], ascii "Error: no such path: " ++ Text.Utf8.encode target ++ ascii "\n", tree⟩
        | .done tree =>
          let output := toString names.length ++ " target(s) formatted\n"
          some ⟨reportedCode script.code, ascii output, script.errors, tree⟩

end Script

end FormatLauncher

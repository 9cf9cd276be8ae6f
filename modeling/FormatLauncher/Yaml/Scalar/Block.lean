/-
# Block texts

A block text takes whole lines, all indented alike.  Its first line holds indicators: whether the
breaks at its end are kept, and how far it is indented when that is not to be seen from its first
line.  A folded block joins neighbouring lines that do not start with a blank.
-/

import FormatLauncher.Failure
import FormatLauncher.Text.DecimalDigit
import FormatLauncher.Yaml.Character

namespace FormatLauncher.Yaml.Block

/-- What happens to the breaks at the end. -/
inductive Chomping
  /-- One break stays. -/
  | clip
  /-- All stay. -/
  | keep
  /-- None stays. -/
  | strip
  deriving DecidableEq, Repr

/-- The indicators of a block. -/
structure Header where
  chomping : Chomping
  increment : Option Nat
  deriving DecidableEq, Repr

/-- A sign among the indicators. -/
def chompingOf? (c : Char) : Option Chomping :=
  if c = '+' then some .keep else if c = '-' then some .strip else none

/-- The indicators, in either order, and what follows them; none for an increment of zero. -/
def readHeader? (text : List Char) : Option (Header × List Char) :=
  let chomping? (text : List Char) : Chomping × List Char :=
    match text.head?.bind chompingOf? with
    | some chomping => (chomping, text.tail)
    | none => (.clip, text)
  let increment? (text : List Char) : Option Nat × List Char :=
    match text.head?.bind Text.asciiDigit? with
    | some digit => (some digit, text.tail)
    | none => (none, text)
  let (chomping, afterSign) := chomping? text
  let (increment, rest) := increment? afterSign
  let (chomping, rest) := if afterSign = text then chomping? rest else (chomping, rest)
  if increment = some 0 then none else some (⟨chomping, increment⟩, rest)

/-- What follows spaces and a comment, when the line ends there; the break is dropped too. -/
def endLine? (text : List Char) : Option (List Char) :=
  let text := text.dropWhile (· = ' ')
  let text := if text.head? = some '#' then text.dropWhile fun c => !isBreak c else text
  if endsLine text then some text.tail else none

/-- The empty lines at the start of a block, and the widest run of spaces in them and before the
first line. -/
def leadingLines : (column : Nat) → List Char → List Char × Nat
  | _, [] => ([], 0)
  | column, c :: rest =>
    if c = ' ' then
      let (breaks, widest) := leadingLines (column + 1) rest
      (breaks, max (column + 1) widest)
    else if isBreak c then
      let (breaks, widest) := leadingLines 0 rest
      (c :: breaks, widest)
    else ([], 0)

/-- The column reached, and what stands there. -/
structure LineStart where
  breaks : List Char
  column : Nat
  rest : List Char

/-- Empty lines, and the spaces of the next line up to the indentation. -/
def skipTo (indent : Nat) : (column : Nat) → List Char → LineStart
  | column, [] => ⟨[], column, []⟩
  | column, c :: rest =>
    if c = ' ' ∧ column < indent then skipTo indent (column + 1) rest
    else if isBreak c then
      let start := skipTo indent 0 rest
      { start with breaks := c :: start.breaks }
    else ⟨[], column, c :: rest⟩

/-- The lines of a block, from the start of a line that belongs to it: the text without the breaks
at its end, those breaks, and what follows the block. -/
def lines (folded : Bool) (indent : Nat) :
    (fuel : Nat) → (start : LineStart) → List Char × List Char × LineStart
  | 0, start => ([], [], start)
  | fuel + 1, start =>
    let line := start.rest.takeWhile fun c => !isBreak c
    let afterLine := start.rest.dropWhile fun c => !isBreak c
    let lineBreak := afterLine.take 1
    let next := skipTo indent 0 afterLine.tail
    if lineBreak ≠ [] ∧ next.column = indent ∧ next.rest ≠ [] then
      let flush (text : List Char) : Bool := !(text.head?.any isGap)
      let joint :=
        if folded && lineBreak = ['\n'] && flush start.rest && flush next.rest then
          if next.breaks = [] then [' '] else []
        else lineBreak
      let (text, tail, last) := lines folded indent fuel next
      (line ++ joint ++ next.breaks ++ text, tail, last)
    else (line, lineBreak, next)

/-- A block, and what follows it.  The text starts after the block's own mark; the indentation
around the block is given. -/
def scan (folded : Bool) (outer : Int) (text : List Char) :
    Except DocumentFault (List Char × List Char) :=
  match readHeader? text with
  | none => .error .malformed
  | some (header, rest) =>
    if !endsPhrase rest then .error .malformed
    else
      match endLine? rest with
      | none => .error .malformed
      | some body =>
        let least := (outer + 1).toNat.max 1
        let indent := match header.increment with
          | none => max least (leadingLines 0 body).2
          | some increment => least + increment - 1
        let start := skipTo indent 0 body
        let hasLines := start.column = indent ∧ start.rest ≠ []
        let (text, lineBreak, last) :=
          if hasLines then lines folded indent body.length start else ([], [], start)
        let text := if hasLines then start.breaks ++ text else text
        let ending := match header.chomping with
          | .strip => []
          | .clip => lineBreak
          | .keep => lineBreak ++ last.breaks
        .ok (text ++ ending, last.rest)

end FormatLauncher.Yaml.Block

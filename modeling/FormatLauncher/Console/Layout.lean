/-
# Lines on a screen

A text is laid out in lines of limited width.  Lines are broken between words; a word that is too wide
for any line is either cut over several lines or cut off, with a mark where the rest is missing.
Tabs become spaces first.
-/

import FormatLauncher.Text.Blank
import FormatLauncher.Text.Grapheme

namespace FormatLauncher.Console.Layout

/-- The columns of the screen. -/
def screenWidth : Nat := 1000

/-- The columns between tab stops. -/
def tabSize : Nat := 8

/-- The mark where something is missing. -/
def omission : Char := '…'

/-- A text with as many spaces as it lacks to a width. -/
def extend (width : Nat) (line : List Char) : List Char :=
  line ++ List.replicate (width - Text.cellWidth line) ' '

/-- A text of exactly some width.  A joiner at the end takes the first space to itself, so the text is
measured again with its spaces. -/
def fit (width : Nat) (line : List Char) : List Char :=
  let extended := extend width (extend width line)
  if Text.cellWidth extended ≤ width then extended else Text.crop width extended

/-- Parts between tabs in one line that has some columns already.  A tab takes at least one space and
leads to the next tab stop. -/
def joinAtStops (column : Nat) : List (List Char) → List Char
  | [] => []
  | [last] => last
  | part :: rest =>
    let column := column + Text.cellWidth (part ++ [' '])
    let stop := (column + (tabSize - 1)) / tabSize * tabSize
    part ++ ' ' :: List.replicate (stop - column) ' ' ++ joinAtStops stop rest

/-- The line with spaces for its tabs. -/
def expandTabs (line : List Char) : List Char := joinAtStops 0 (line.splitOnP (· = '\t'))

/-- The words of a line, each with the blanks after it, and the first one also with those before it.
Nothing but blanks has no words. -/
def words (line : List Char) : List (List Char) :=
  match line.splitBy fun a b => !(Text.isBlank a && !Text.isBlank b) with
  | [] => []
  | first :: rest =>
    if first.all Text.isBlank then
      match rest with
      | [] => []
      | second :: rest => (first ++ second) :: rest
    else first :: rest

/-- A text without the blanks at its end, as far as there are so many. -/
def dropBlanks (count : Nat) (line : List Char) : List Char :=
  let blanks := (line.reverse.takeWhile Text.isBlank).length
  line.take (line.length - min blanks count)

/-- What becomes of a word that is too wide for any line. -/
inductive Overflow
  /-- It is cut over several lines. -/
  | folded
  /-- It is cut off. -/
  | omitted
  deriving DecidableEq, Repr

/-- Words that are put into lines. -/
structure Filling where
  /-- The full lines, the last one first. -/
  full : List (List Char)
  /-- The line under way. -/
  line : List Char
  /-- The columns that it takes. -/
  used : Nat

namespace Filling

/-- Before any word. -/
def start : Filling := ⟨[], [], 0⟩

/-- Begin a new line with some text, unless nothing came before it. -/
def startLine (f : Filling) (text : List Char) : Filling :=
  let full := if f.line.isEmpty then f.full else f.line :: f.full
  ⟨full, text, Text.cellWidth text⟩

/-- Add a word. -/
def add (width : Nat) (overflow : Overflow) (f : Filling) (word : List Char) : Filling :=
  let bare := Text.cellWidth (dropBlanks word.length word)
  if f.used + bare ≤ width then ⟨f.full, f.line ++ word, f.used + Text.cellWidth word⟩
  else if bare ≤ width then f.startLine word
  else match overflow with
    | .folded => (Text.foldLines width word).foldl startLine f
    | .omitted => f.startLine word

/-- The lines. -/
def lines (f : Filling) : List (List Char) := (f.line :: f.full).reverse

end Filling

/-- A line broken between its words. -/
def breakLine (width : Nat) (overflow : Overflow) (line : List Char) : List (List Char) :=
  match words line with
  | [] => [line]
  | first :: rest => ((first :: rest).foldl (Filling.add width overflow) Filling.start).lines

/-- A line cut to a width. -/
def cut (width : Nat) (overflow : Overflow) (line : List Char) : List Char :=
  if Text.cellWidth line ≤ width then line
  else match overflow with
    | .folded => Text.crop width line
    | .omitted => Text.crop (width - 1) line ++ [omission]

/-- The lines of a text on a screen of some width. -/
def lines (width : Nat) (overflow : Overflow) (text : List Char) : List (List Char) :=
  (text.splitOnP (· = '\n')).flatMap fun line =>
    (breakLine width overflow (expandTabs line)).map fun line =>
      cut width overflow (dropBlanks (line.length - width) line)

/-- A character that ends a line when the width of a text is asked for. -/
def endsLine (c : Char) : Bool :=
  [0x0A, 0x0B, 0x0C, 0x0D, 0x1C, 0x1D, 0x1E, 0x85, 0x2028, 0x2029].contains c.toNat

/-- The width that a text asks for: that of its widest line.  Tabs count for nothing here. -/
def desiredWidth (text : List Char) : Nat :=
  ((text.splitOnP endsLine).map Text.cellWidth).foldl max 0

end FormatLauncher.Console.Layout

/-
# Tables

A table has two columns without headings and a square border.  A column is as wide as its widest
text asks for, unless the table gets too wide for the screen; then the wider column gives way first.
A text that takes several lines makes its row as high.
-/

import FormatLauncher.Console.Layout
import FormatLauncher.Console.Markup

namespace FormatLauncher.Console.Table

/-- The lines of a cell. -/
abbrev Lines := List (List Char)

/-- The widths of the two columns, with a space at both sides of the text. -/
structure Widths where
  left : Nat
  right : Nat
  deriving DecidableEq, Repr

/-- The spaces at the sides of a text. -/
def margin : Nat := 2

/-- The columns of the screen without the three lines of the border. -/
def available : Nat := Layout.screenWidth - 3

/-- Half of a number; of two nearest numbers, the even one. -/
def half (n : Nat) : Nat := (n / 2) + (if n % 4 = 3 then 1 else 0)

/-- Take some columns away: from the wider column until both are equal, then from both. -/
def Widths.shrink (w : Widths) (excess : Nat) : Widths :=
  let uneven := min excess (max w.left w.right - min w.left w.right)
  let w : Widths :=
    if w.left ≤ w.right then ⟨w.left, w.right - uneven⟩ else ⟨w.left - uneven, w.right⟩
  let even := excess - uneven
  ⟨w.left - half even, w.right - (even - half even)⟩

/-- The width of a column that asks for as much as its texts. -/
def columnWidth (texts : List (List Char)) : Nat :=
  min available (margin + (texts.map Layout.desiredWidth).foldl max 0)

/-- The widths for the texts of both columns. -/
def widthsOf (left right : List (List Char)) : Widths :=
  let w : Widths := ⟨columnWidth left, columnWidth right⟩
  w.shrink (w.left + w.right - available)

/-- The lines of a text in a column. -/
def linesOf (width : Nat) (text : List Char) : Lines :=
  Layout.lines (width - margin) .omitted text

/-- A line of a cell with a space at both sides; missing lines are blank. -/
def cellLine (width : Nat) (lines : Lines) (n : Nat) : List Char :=
  ' ' :: Layout.fit (width - margin) (lines.getD n []) ++ [' ']

/-- A row. -/
def row (w : Widths) (left right : Lines) : List Char :=
  (List.range (max left.length right.length)).flatMap fun n =>
    '│' :: cellLine w.left left n ++ '│' :: cellLine w.right right n ++ ['│', '\n']

/-- A horizontal edge with its three corners. -/
def edge (w : Widths) (start middle stop : Char) : List Char :=
  start :: List.replicate w.left '─' ++ middle :: List.replicate w.right '─' ++ [stop, '\n']

/-- The table of some rows of markup.  All of the left column is read before the right one. -/
def render (rows : List (String × String)) : Except Failure String := do
  let lefts ← rows.mapM fun (left, _) => Markup.render left
  let rights ← rows.mapM fun (_, right) => Markup.render right
  let w := widthsOf lefts rights
  let body := (lefts.zip rights).flatMap fun (left, right) =>
    row w (linesOf w.left left) (linesOf w.right right)
  return String.ofList (edge w '┌' '┬' '┐' ++ body ++ edge w '└' '┴' '┘')

end FormatLauncher.Console.Table

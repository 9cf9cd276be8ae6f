/-
# Edit distance and the nearest option

The distance between two words is the least number of inserted, deleted and replaced characters that
turns one into the other.  It is computed row by row: a row holds the distances from every beginning
of the shorter word to the part of the longer word read so far.  The nearest option is the first in
code point order among those at the least distance, letter case aside, and there is none when the
least distance exceeds two.
-/

import FormatLauncher.Text.LowerCase

namespace FormatLauncher.EditDistance

/-- The rest of the row after one more character `c` of the second word, given the entry to the
left. -/
def extendRow (c : Char) : (word : List Char) → (row : List Nat) → (left : Nat) → List Nat
  | a :: word, diagonal :: up :: row, left =>
    let here := if a = c then diagonal else 1 + min diagonal (min up left)
    here :: extendRow c word (up :: row) here
  | _, _, _ => []

/-- The row after one more character of the second word. -/
def nextRow (word : List Char) (row : List Nat) (c : Char) : List Nat :=
  let first := row.headD 0 + 1
  first :: extendRow c word row first

/-- The last row: the distances from every beginning of `word` to the whole of `other`. -/
def lastRow (word other : List Char) : List Nat :=
  other.foldl (nextRow word) (List.range (word.length + 1))

/-- The edit distance of two words; the rows are those of the shorter one. -/
def distance (word other : List Char) : Nat :=
  let row := if other.length < word.length then lastRow other word else lastRow word other
  row.getLastD 0

/-- The farthest an option may be from a word and still be suggested. -/
def reach : Nat := 2

/-- The option kept so far and its distance, after one more option. -/
def keepNearer (word : List Char) (best : Option (String × Nat)) (option : String) :
    Option (String × Nat) :=
  let d := distance word (Text.toLower option).toList
  let nearer : Bool :=
    match best with
    | none => true
    | some (_, least) => decide (d < least)
  if nearer && decide (d ≤ reach) then some (option, d) else best

/-- The option nearest to a word, letter case aside, when one is near enough. -/
def nearest? (word : String) (options : List String) : Option String :=
  let small := (Text.toLower word).toList
  let sorted := options.mergeSort fun a b => decide (a ≤ b)
  (sorted.foldl (keepNearer small) none).map (·.1)

end FormatLauncher.EditDistance

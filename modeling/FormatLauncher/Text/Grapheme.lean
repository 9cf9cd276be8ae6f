/-
# Graphemes

What is seen as one character may be several: characters without a width belong to the one before
them, and a joined character does not stand alone.  A text is cut only between graphemes.
-/

import FormatLauncher.Text.CellWidth

namespace FormatLauncher.Text

/-- Characters that are seen as one, and their cells. -/
structure Grapheme where
  text : List Char
  width : Nat
  deriving DecidableEq, Repr

namespace Grapheme

/-- A text that is split from its start on. -/
structure Progress where
  /-- The graphemes, the last one first. -/
  done : List Grapheme
  /-- The last character with a width, unless its picture was asked for. -/
  last : Option Char
  /-- The next character is joined to the one before it. -/
  joins : Bool

/-- Add a character to the last grapheme, which gets wider by some cells.  At the start of a text
the character stands alone, without a width. -/
def Progress.attach (p : Progress) (c : Char) (gain : Nat) : List Grapheme :=
  match p.done with
  | [] => [⟨[c], 0⟩]
  | g :: rest => ⟨g.text ++ [c], g.width + gain⟩ :: rest

/-- After one more character. -/
def Progress.next (p : Progress) (c : Char) : Progress :=
  if p.joins then ⟨p.attach c 0, p.last, false⟩
  else if c = joiner then ⟨p.attach c 0, p.last, !p.done.isEmpty⟩
  else if c = pictureSelector then
    let gain := (p.last.map pictureGain).getD 0
    ⟨p.attach c gain, if gain = 0 then p.last else none, false⟩
  else if charWidth c = 0 then ⟨p.attach c 0, p.last, false⟩
  else ⟨⟨[c], charWidth c⟩ :: p.done, some c, false⟩

/-- The graphemes of a text. -/
def split (text : List Char) : List Grapheme :=
  (text.foldl Progress.next ⟨[], none, false⟩).done.reverse

/-- The text of graphemes. -/
def join (graphemes : List Grapheme) : List Char := graphemes.flatMap (·.text)

/-- Adding a character adds it at the end of the text. -/
theorem join_attach (p : Progress) (c : Char) (gain : Nat) :
    join (p.attach c gain).reverse = join p.done.reverse ++ [c] := by
  unfold Progress.attach
  split <;> simp_all [join]

/-- A step adds its character at the end of the text. -/
theorem join_next (p : Progress) (c : Char) :
    join (p.next c).done.reverse = join p.done.reverse ++ [c] := by
  unfold Progress.next
  split
  · exact join_attach p c 0
  · split
    · exact join_attach p c 0
    · split
      · exact join_attach p c _
      · split
        · exact join_attach p c 0
        · simp [join]

/-- The graphemes of a text are the whole text, in its order. -/
theorem join_split (text : List Char) : join (split text) = text := by
  have hfold (p : Progress) :
      join (text.foldl Progress.next p).done.reverse = join p.done.reverse ++ text := by
    induction text generalizing p with
    | nil => simp
    | cons c text ih => rw [List.foldl_cons, ih, join_next, List.append_assoc, List.singleton_append]
  simpa [split, join] using hfold ⟨[], none, false⟩

/-- The graphemes that fit into some cells.  A wide one that fits only half leaves a space. -/
def crop : (cells : Nat) → List Grapheme → List Char
  | _, [] => []
  | 0, _ :: _ => []
  | cells + 1, g :: rest =>
    if g.width ≤ cells + 1 then g.text ++ crop (cells + 1 - g.width) rest else [' ']

/-- The lines of graphemes, none wider than some cells, while a line is under way. -/
def foldFrom (cells : Nat) (line : List Grapheme) (used : Nat) : List Grapheme → List (List Char)
  | [] => if used = 0 then [] else [join line]
  | g :: rest =>
    if cells < used + g.width then join line :: foldFrom cells [g] g.width rest
    else foldFrom cells (line ++ [g]) (used + g.width) rest

end Grapheme

/-- The text cut to some cells. -/
def crop (cells : Nat) (text : List Char) : List Char := Grapheme.crop cells (Grapheme.split text)

/-- The text in lines that are no wider than some cells, cut anywhere. -/
def foldLines (cells : Nat) (text : List Char) : List (List Char) :=
  Grapheme.foldFrom cells [] 0 (Grapheme.split text)

end FormatLauncher.Text

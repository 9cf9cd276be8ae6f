/-
# Emoji by name

A name between colons stands for a picture.  Case does not count, and a suffix asks for the plain or
the coloured form of the picture.  A name that is not known stays as it is, with its colons.
-/

import FormatLauncher.Console.Emoji.Names
import FormatLauncher.Text.Blank
import FormatLauncher.Text.DecimalDigit
import FormatLauncher.Text.LowerCase

namespace FormatLauncher.Console

/-- An emoji. -/
structure Emoji where
  name : String
  /-- The name also stands with the suffix of a skin tone. -/
  takesTone : Bool
  picture : List Char
  deriving DecidableEq, Repr

namespace Emoji

/-- A character by its hexadecimal code point. -/
def readCode (digits : List Char) : Char :=
  Char.ofNat (digits.foldl (fun n c => 16 * n + (Text.hexDigit? c).getD 0) 0)

/-- An emoji of the list of names. -/
def ofEntry (entry : List Char) : Emoji :=
  let name := entry.takeWhile (· ≠ '=')
  let codes := (entry.drop (name.length + 1)).splitOnP (· = '-')
  let takesTone := name.getLast? = some '~'
  ⟨String.ofList (if takesTone then name.dropLast else name), takesTone, codes.map readCode⟩

/-- The emoji that have a name. -/
def all : List Emoji :=
  ((emojiNames.toList.splitOnP Text.isBlank).filter (!·.isEmpty)).map ofEntry

/-- The emoji of a full name. -/
def ofName? (name : String) : Option Emoji := all.find? fun emoji => emoji.name = name

/-- The suffixes of the skin tones, with the character that gives a picture the tone. -/
def tones : List (String × Char) := [
  ("_light_skin_tone", Char.ofNat 0x1F3FB), ("_medium-light_skin_tone", Char.ofNat 0x1F3FC),
  ("_medium_skin_tone", Char.ofNat 0x1F3FD), ("_medium-dark_skin_tone", Char.ofNat 0x1F3FE),
  ("_dark_skin_tone", Char.ofNat 0x1F3FF)]

/-- The character that asks for the coloured form of a picture. -/
def coloredForm : Char := '\ufe0f'

/-- The character that asks for the plain form of a picture. -/
def plainForm : Char := '\ufe0e'

/-- A picture with a skin tone, which stands after its first character. -/
def toned (tone : Char) (picture : List Char) : List Char :=
  picture.take 1 ++ tone :: (picture.drop 1).dropWhile (· = coloredForm)

/-- What comes before a suffix. -/
def beforeSuffix? (suffix name : String) : Option String :=
  if suffix.toList.isSuffixOf name.toList then
    some (String.ofList (name.toList.take (name.length - suffix.length)))
  else none

/-- The picture of a name. -/
def picture? (name : String) : Option (List Char) :=
  match ofName? name with
  | some emoji => some emoji.picture
  | none => tones.findSome? fun (suffix, tone) => do
    let emoji ← ofName? (← beforeSuffix? suffix name)
    if emoji.takesTone then some (toned tone emoji.picture) else none

/-- The picture of what stands between two colons. -/
def shown? (between : List Char) : Option (List Char) :=
  let text := String.ofList between
  match beforeSuffix? "-emoji" text, beforeSuffix? "-text" text with
  | some name, _ => (picture? (Text.toLower name)).map (· ++ [coloredForm])
  | none, some name => (picture? (Text.toLower name)).map (· ++ [plainForm])
  | none, none => picture? (Text.toLower text)

/-- A text that is shown from its start on. -/
structure Progress where
  /-- What is shown, the last character first. -/
  shown : List Char
  /-- What follows a colon that may open a name, the last character first. -/
  name : Option (List Char)

/-- After one more character. -/
def Progress.next (p : Progress) (c : Char) : Progress :=
  match p.name with
  | none => if c = ':' then ⟨p.shown, some []⟩ else ⟨c :: p.shown, none⟩
  | some name =>
    if c = ':' then
      match shown? name.reverse with
      | some picture => ⟨picture.reverse ++ p.shown, none⟩
      | none => ⟨':' :: name ++ ':' :: p.shown, none⟩
    else if Text.isBlank c then ⟨c :: name ++ ':' :: p.shown, none⟩
    else ⟨p.shown, some (c :: name)⟩

/-- All that is shown; a colon that opened no name stands for itself. -/
def Progress.finish (p : Progress) : List Char :=
  (match p.name with
    | none => p.shown
    | some name => name ++ ':' :: p.shown).reverse

/-- The text with pictures for the names between colons. -/
def replace (text : List Char) : List Char := (text.foldl Progress.next ⟨[], none⟩).finish

/-- A text without a colon is shown as it is. -/
theorem replace_of_notMem {text : List Char} (h : ':' ∉ text) : replace text = text := by
  have hfold (shown : List Char) :
      text.foldl Progress.next ⟨shown, none⟩ = ⟨text.reverse ++ shown, none⟩ := by
    induction text generalizing shown with
    | nil => rfl
    | cons c text ih =>
      simp only [List.mem_cons, not_or] at h
      simp only [List.foldl_cons, Progress.next, if_neg (Ne.symm h.1)]
      rw [ih h.2]
      simp
  simp [replace, hfold, Progress.finish]

end Emoji

end FormatLauncher.Console

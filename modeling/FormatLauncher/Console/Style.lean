/-
# Styles

A style is spelled by words: its attributes, the words that take one away, its colours and a link.
Styles that do the same have one normal spelling, in which a tag is closed whichever way it was
opened.
-/

import FormatLauncher.Console.Color
import FormatLauncher.Text.Blank

namespace FormatLauncher.Console

/-- An attribute of text, in the order of the normal spelling. -/
inductive Attribute
  | bold | dim | italic | underline | blink | blink2 | reverse | conceal | strike | underline2
  | frame | encircle | overline
  deriving DecidableEq, Repr

namespace Attribute

/-- The attributes with their names, in the order of the normal spelling. -/
def named : List (Attribute × String) := [
  (bold, "bold"), (dim, "dim"), (italic, "italic"), (underline, "underline"), (blink, "blink"),
  (blink2, "blink2"), (reverse, "reverse"), (conceal, "conceal"), (strike, "strike"),
  (underline2, "underline2"), (frame, "frame"), (encircle, "encircle"), (overline, "overline")]

/-- Short names of attributes. -/
def shortNamed : List (Attribute × String) := [
  (dim, "d"), (bold, "b"), (italic, "i"), (underline, "u"), (reverse, "r"), (conceal, "c"),
  (strike, "s"), (underline2, "uu"), (overline, "o")]

/-- The attribute of a name. -/
def ofWord? (word : String) : Option Attribute :=
  ((named ++ shortNamed).find? fun entry => entry.2 = word).map (·.1)

/-- An attribute is found by its full name. -/
theorem ofWord?_of_mem {entry : Attribute × String} (h : entry ∈ named) :
    ofWord? entry.2 = some entry.1 := by
  simp only [named, List.mem_cons, List.not_mem_nil, or_false] at h
  rcases h with rfl | rfl | rfl | rfl | rfl | rfl | rfl | rfl | rfl | rfl | rfl | rfl | rfl <;> rfl

end Attribute

/-- A style. -/
structure Style where
  /-- The attributes it sets or takes away, the last one first. -/
  attributes : List (Attribute × Bool)
  color : Option String
  background : Option String
  link : Option String
  deriving DecidableEq, Repr

namespace Style

/-- The style that changes nothing. -/
def none : Style := ⟨[], .none, .none, .none⟩

/-- The words of the normal spelling. -/
def words (s : Style) : List String :=
  let attributes := Attribute.named.filterMap fun (kind, name) =>
    (s.attributes.lookup kind).map fun isSet => if isSet then name else "not " ++ name
  attributes ++ s.color.toList ++ (s.background.map ("on " ++ ·)).toList
    ++ (s.link.map ("link " ++ ·)).toList

/-- The normal spelling. -/
def spelling (s : Style) : String :=
  if s.words.isEmpty then "none" else " ".intercalate s.words

/-- The style of some words, on top of a style.  Words of which one makes no sense are no style. -/
def readWords (s : Style) : List String → Except Failure (Option Style)
  | [] => .ok (some s)
  | word :: rest =>
    match Text.toLower word, rest with
    | "on", color :: rest => do
      match ← Color.read? color with
      | some color => readWords { s with background := some color } rest
      | .none => return .none
    | "not", name :: rest =>
      match Attribute.ofWord? name with
      | some kind => readWords { s with attributes := (kind, false) :: s.attributes } rest
      | .none => .ok .none
    | "link", target :: rest => readWords { s with link := some target } rest
    | "on", [] | "not", [] | "link", [] => .ok .none
    | small, rest =>
      match Attribute.ofWord? small with
      | some kind => readWords { s with attributes := (kind, true) :: s.attributes } rest
      | .none => do
        match ← Color.read? small with
        | some color => readWords { s with color := some color } rest
        | .none => return .none

/-- The words of a text. -/
def wordsOf (text : String) : List String :=
  ((text.toList.splitOnP Text.isBlank).filter (!·.isEmpty)).map String.ofList

/-- The style that a text spells. -/
def read? (text : String) : Except Failure (Option Style) :=
  if Text.trim text = "none" then .ok (some none) else readWords none (wordsOf text)

/-- The name under which a style is opened and closed: its normal spelling, or for a text that spells
none the text itself, without the blanks around it and in lower case. -/
def normalName (text : String) : Except Failure String :=
  (read? text).map fun style => (style.map spelling).getD (Text.toLower (Text.trim text))

end Style

end FormatLauncher.Console

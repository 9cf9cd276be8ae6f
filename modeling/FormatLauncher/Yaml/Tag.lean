/-
# Tags

A tag says what kind of value a node stands for.  A node without a tag gets one: collections by
their shape, quoted texts as texts, plain texts by their spelling.
-/

import FormatLauncher.Yaml.Scalar.Number
import FormatLauncher.Yaml.Scalar.Timestamp

namespace FormatLauncher.Yaml

/-- What a node stands for. -/
inductive Tag
  | null
  | bool
  | int
  | float
  | binary
  | timestamp
  | text
  | list
  | map
  /-- Pairs as a list, in order. -/
  | pairs
  /-- The keys of a mapping. -/
  | set
  /-- As a key: the entries of other mappings are taken over. -/
  | merge
  /-- As a key: the text that the whole mapping stands for. -/
  | value
  /-- Nothing reads it. -/
  | unknown
  deriving DecidableEq, Repr

namespace Tag

/-- The beginning of the tags that are read. -/
def standard : String := "tag:yaml.org,2002:"

/-- The tags that are read, by the rest of their names. -/
def standardNames : List (String × Tag) := [
  ("null", .null), ("bool", .bool), ("int", .int), ("float", .float), ("binary", .binary),
  ("timestamp", .timestamp), ("str", .text), ("seq", .list), ("map", .map), ("omap", .pairs),
  ("pairs", .pairs), ("set", .set), ("merge", .merge), ("value", .value)]

/-- The tag of a full name. -/
def ofName (name : String) : Tag :=
  ((standardNames.find? fun (rest, _) => standard ++ rest = name).map (·.2)).getD .unknown

/-- The words for truth and falsity, in lower case. -/
def truthWords : List (String × Bool) := [
  ("yes", true), ("no", false), ("true", true), ("false", false), ("on", true), ("off", false)]

/-- The three ways to write a word: small, capitalised, or in capitals. -/
def casings (word : String) : List String :=
  let chars := word.toList
  let capital := match chars with
    | [] => []
    | c :: rest => c.toUpper :: rest
  [word, String.ofList capital, String.ofList (chars.map Char.toUpper)]

/-- The spellings of truth and falsity. -/
def truthSpellings : List String := truthWords.flatMap fun (word, _) => casings word

/-- The spellings of null; the empty text is another one. -/
def nullSpellings : List String := "~" :: casings "null"

/-- The tag of a plain text, by its spelling; a line feed at its end does not count. -/
def ofPlain (text : List Char) : Tag :=
  let bare := dropLastBreak text
  let word := String.ofList bare
  if text = [] then .null
  else if truthSpellings.contains word then .bool
  else if Number.isFloat bare then .float
  else if Number.isInteger bare then .int
  else if word = "<<" then .merge
  else if nullSpellings.contains word then .null
  else if Timestamp.isSpelled bare then .timestamp
  else if word = "=" then .value
  else .text

end Tag

end FormatLauncher.Yaml

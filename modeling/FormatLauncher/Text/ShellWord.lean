/-
# Shell words

An argument list is logged as one line that a shell would read back as the same list.  A word of
harmless ASCII characters stays bare; every other word stands between apostrophes, and an
apostrophe inside it is written as the word's end, a quoted apostrophe, and its beginning again.
-/

namespace FormatLauncher.Text.ShellWord

/-- A character that a shell never treats specially. -/
def isBare (c : Char) : Bool :=
  c.isAlphanum || "_@%+=:,./-".toList.contains c

/-- One character between apostrophes. -/
def quotedChar (c : Char) : List Char :=
  if c = '\'' then ['\'', '"', '\'', '"', '\''] else [c]

/-- One word as a shell reads it. -/
def quote (word : List Char) : List Char :=
  if word = [] then ['\'', '\'']
  else if word.all isBare then word
  else '\'' :: word.flatMap quotedChar ++ ['\'']

/-- The words on one line, a space between neighbours. -/
def joinChars : List (List Char) → List Char
  | [] => []
  | [word] => quote word
  | word :: rest => quote word ++ ' ' :: joinChars rest

/-- The words on one line. -/
def join (words : List String) : String :=
  String.ofList (joinChars (words.map String.toList))

end FormatLauncher.Text.ShellWord

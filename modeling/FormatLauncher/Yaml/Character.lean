/-
# Characters of a document

A document is text in which every line break is one character: what other habits write as a carriage
return, with or without a line feed, or as a next-line character is a line feed here.  The two
Unicode separators of lines and paragraphs are breaks too and stay themselves.
-/

namespace FormatLauncher.Yaml

/-- The text with its line breaks written as line feeds. -/
def unifyBreaks : List Char → List Char
  | [] => []
  | '\r' :: '\n' :: rest => '\n' :: unifyBreaks rest
  | c :: rest => (if c = '\r' ∨ c = '\u0085' then '\n' else c) :: unifyBreaks rest

/-- The character may stand in a document: all but most control characters and two that are none. -/
def isAllowed (c : Char) : Bool :=
  let n := c.toNat
  n = 0x9 || n = 0xA || n = 0xD || n = 0x85 || (0x20 ≤ n && n ≤ 0x7E) || (0xA0 ≤ n && n ≤ 0xFFFD)
    || 0x10000 ≤ n

/-- The character ends a line. -/
def isBreak (c : Char) : Bool := c = '\n' || c = '\u2028' || c = '\u2029'

/-- A space or a tab. -/
def isGap (c : Char) : Bool := c = ' ' || c = '\t'

/-- A break or the end of the text comes next. -/
def endsLine (text : List Char) : Bool := text.head?.all isBreak

/-- A space, a break or the end of the text comes next. -/
def endsPhrase (text : List Char) : Bool := text.head?.all fun c => c = ' ' || isBreak c

/-- A space, a tab, a break or the end of the text comes next. -/
def endsWord (text : List Char) : Bool := text.head?.all fun c => isGap c || isBreak c

/-- An ASCII digit. -/
def isDigit (c : Char) : Bool := 0x30 ≤ c.toNat && c.toNat ≤ 0x39

/-- A character of a name: an ASCII letter or digit, a hyphen or a low line. -/
def isNameChar (c : Char) : Bool :=
  isDigit c || (0x41 ≤ c.toNat && c.toNat ≤ 0x5A) || (0x61 ≤ c.toNat && c.toNat ≤ 0x7A)
    || c = '-' || c = '_'

/-- A character that separates or closes inside brackets and braces. -/
def isFlowMark (c : Char) : Bool := c = ',' || c = '[' || c = ']' || c = '\x7b' || c = '\x7d'

/-- The text starts with three hyphens that stand alone. -/
def startsDocument : List Char → Bool
  | '-' :: '-' :: '-' :: rest => endsWord rest
  | _ => false

/-- The text starts with three dots that stand alone. -/
def endsDocument : List Char → Bool
  | '.' :: '.' :: '.' :: rest => endsWord rest
  | _ => false

/-- The text starts with a mark that starts or ends a document. -/
def isDocumentMark (text : List Char) : Bool := startsDocument text || endsDocument text

/-- The text without a line feed at its end. -/
def dropLastBreak (text : List Char) : List Char :=
  if text.getLast? = some '\n' then text.dropLast else text

/-- A break with the breaks of the empty lines after it, as they count inside a text: a single line
feed folds into a space, and the first line feed of several is dropped. -/
def foldBreaks (first : Char) (more : List Char) : List Char :=
  if first ≠ '\n' then first :: more else if more = [] then [' '] else more

end FormatLauncher.Yaml

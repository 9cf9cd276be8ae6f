/-
# Labels and directives

An anchor, an alias and a tag label a node; a directive says how tags are to be read.  A tag is
either written out between angle brackets, or starts with a handle that a directive explains.  Each
function here returns what it read and the text after it, or none for a fault.
-/

import FormatLauncher.Text.Utf8
import FormatLauncher.Yaml.Character
import FormatLauncher.Yaml.Token

namespace FormatLauncher.Yaml.Label

/-- A name of at least one character. -/
def readName (text : List Char) : Option (String × List Char) :=
  let name := text.takeWhile isNameChar
  if name = [] then none else some (String.ofList name, text.dropWhile isNameChar)

/-- What may follow the name of an anchor or an alias. -/
def endsAnchor (text : List Char) : Bool :=
  endsWord text || text.head?.any fun c =>
    ['?', ':', ',', ']', '\x7d', '%', '@', '\x60'].contains c

/-- The name of an anchor or an alias; the text starts after its mark. -/
def readAnchor (text : List Char) : Option (String × List Char) := do
  let (name, rest) ← readName text
  if endsAnchor rest then some (name, rest) else none

/-- A character that stands for itself in a tag. -/
def isTagChar (c : Char) : Bool :=
  isNameChar c || [';', '/', '?', ':', '@', '&', '=', '+', '$', ',', '.', '!', '~', '*', '\'', '(',
    ')', '[', ']'].contains c

/-- The bytes of a run of percent escapes. -/
def readEscapes : List Char → Option (Text.Bytes × List Char)
  | '%' :: high :: low :: rest => do
    let h ← Text.hexDigit? high
    let l ← Text.hexDigit? low
    let (bytes, rest) ← readEscapes rest
    some (UInt8.ofNat (h * 16 + l) :: bytes, rest)
  | '%' :: _ => none
  | rest => some ([], rest)

/-- The characters of a tag, its escapes read as UTF-8. -/
def readTagChars : (fuel : Nat) → List Char → Option (List Char × List Char)
  | 0, text => some ([], text)
  | fuel + 1, text =>
    if text.head? = some '%' then do
      let (bytes, rest) ← readEscapes text
      let escaped ← (Text.Utf8.decode bytes).toOption
      let (chars, rest) ← readTagChars fuel rest
      some (escaped.toList ++ chars, rest)
    else
      let run := text.takeWhile isTagChar
      if run = [] then some ([], text)
      else do
        let (chars, rest) ← readTagChars fuel (text.dropWhile isTagChar)
        some (run ++ chars, rest)

/-- A tag, or the beginning of one, of at least one character. -/
def readTagText (text : List Char) : Option (String × List Char) := do
  let (chars, rest) ← readTagChars text.length text
  if rest.length = text.length then none else some (String.ofList chars, rest)

/-- A handle: an exclamation mark, two of them, or a name between two. -/
def readHandle (text : List Char) : Option (String × List Char) :=
  match text with
  | '!' :: rest =>
    let name := rest.takeWhile isNameChar
    match rest.dropWhile isNameChar with
    | '!' :: after => some (String.ofList ('!' :: name ++ ['!']), after)
    | after => if name = [] && after.head? = some ' ' then some ("!", after) else none
  | _ => none

/-- The handle and the rest of a tag; the text starts after the tag's exclamation mark. -/
def readTag (text : List Char) : Option ((Option String × String) × List Char) := do
  let (tag, rest) ←
    match text with
    | '<' :: inside => do
      let (name, rest) ← readTagText inside
      if rest.head? = some '>' then some ((none, name), rest.tail) else none
    | _ =>
      if endsWord text then some ((none, "!"), text)
      else if (text.takeWhile fun c => !endsPhrase [c]).contains '!' then do
        let (handle, rest) ← readHandle ('!' :: text)
        let (name, rest) ← readTagText rest
        some ((some handle, name), rest)
      else do
        let (name, rest) ← readTagText text
        some ((some "!", name), rest)
  if endsPhrase rest then some (tag, rest) else none

/-- What was read, where nothing is malformed. -/
def required {α : Type} : Option α → Except DocumentFault α
  | some value => .ok value
  | none => .error .malformed

/-- A number in decimal; too many digits are refused. -/
def readNumber (text : List Char) : Except DocumentFault (Nat × List Char) :=
  let digits := text.takeWhile isDigit
  if digits = [] then .error .malformed
  else if Value.digitLimit < digits.length then .error (.tooManyDigits digits.length)
  else .ok (digits.foldl (fun n c => n * 10 + (c.toNat - 0x30)) 0, text.dropWhile isDigit)

/-- The text without the spaces at its start. -/
def skipSpaces (text : List Char) : List Char := text.dropWhile (· = ' ')

/-- The version of the format: two numbers with a point between them. -/
def readVersion (text : List Char) : Except DocumentFault (Directive × List Char) := do
  let (major, rest) ← readNumber (skipSpaces text)
  if rest.head? ≠ some '.' then throw .malformed
  let (_, rest) ← readNumber rest.tail
  if endsPhrase rest then return (.version major, rest) else throw .malformed

/-- A handle and the beginning of tags that it stands for. -/
def readTagRule (text : List Char) : Option (Directive × List Char) := do
  let (handle, rest) ← readHandle (skipSpaces text)
  if rest.head? ≠ some ' ' then none
  else
    let (start, rest) ← readTagText (skipSpaces rest)
    if endsPhrase rest then some (.tag handle start, rest) else none

/-- A directive with the rest of its line; the text starts after its percent sign, and what is left
starts with the break. -/
def readDirective (text : List Char) : Except DocumentFault (Directive × List Char) := do
  let (name, rest) ← required (readName text)
  unless endsPhrase rest do throw .malformed
  let (directive, rest) ←
    if name = "YAML" then readVersion rest
    else if name = "TAG" then required (readTagRule rest)
    else pure (.other, rest.dropWhile fun c => !isBreak c)
  let rest := skipSpaces rest
  let rest := if rest.head? = some '#' then rest.dropWhile fun c => !isBreak c else rest
  if endsLine rest then return (directive, rest) else throw .malformed

end FormatLauncher.Yaml.Label

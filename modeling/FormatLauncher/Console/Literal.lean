/-
# Literals in tags

A tag can name what is called when its text is clicked, and say with which arguments.  They are
literals: numbers with a sign, texts, the words for truth, falsehood and nothing, and tuples, sets
and mappings of literals.  Square brackets end a tag, so there are no lists.  Whether a text is a
literal is decided by one pass over its tokens with a stack of the brackets that are open.

A text that is no literal is refused in the words for one that is no expression at all; what is said
of an expression that is no literal depends on the run and is not modelled.
-/

import FormatLauncher.Decimal.Reader
import FormatLauncher.Text.Quoted

namespace FormatLauncher.Console.Literal

/-- A token of a literal. -/
inductive Token
  | number (isImaginary : Bool)
  | text (isBytes : Bool)
  | word (letters : List Char)
  | mark (c : Char)
  deriving DecidableEq, Repr

/-- A character of a name; all letters above ASCII count. -/
def isNameChar (c : Char) : Bool := c.isAlphanum || c = '_' || 0x80 ≤ c.toNat

/-- The characters of a number at the start of a text; a sign belongs to it after the letter of an
exponent. -/
def numberPrefix : (previous : Option Char) → List Char → List Char
  | _, [] => []
  | previous, c :: rest =>
    let follows := (c = '+' || c = '-') && previous.any fun p => p = 'e' || p = 'E'
    if c.isAlphanum || c = '.' || c = '_' || follows then c :: numberPrefix (some c) rest else []

/-- An integer in another base than ten, by what follows its leading zero. -/
def isBased : List Char → Bool
  | letter :: digits =>
    let base := if letter.toLower = 'x' then 16 else if letter.toLower = 'o' then 8 else 2
    "xob".toList.contains letter.toLower &&
      (Decimal.joinDigits? none digits).any fun ds =>
        !ds.isEmpty && ds.all fun c => (Decimal.baseDigit? base c).isSome
  | [] => false

/-- A number, and whether it is imaginary.  Only the number zero starts with a zero and goes on with
decimal digits alone. -/
def number? (chars : List Char) : Option Token :=
  match chars with
  | '0' :: rest => if isBased rest then some (.number false) else decimal chars
  | _ => decimal chars
where
  decimal (chars : List Char) : Option Token :=
    let isImaginary := chars.getLast?.any fun c => c = 'j' || c = 'J'
    let digits := if isImaginary then chars.dropLast else chars
    let isWhole := digits.all fun c => c.isDigit || c = '_'
    let isZero := digits.all fun c => c = '0' || c = '_'
    let leads := isWhole && !isImaginary && digits.head? = some '0' && !isZero
    ((Decimal.joinDigits? none digits).bind (Decimal.unsigned? false)).bind fun _ =>
      if leads then none else some (.number isImaginary)

/-- What follows the end of a text in quotes; a backslash takes the character after it along. -/
def afterQuotes? (quotes : List Char) : List Char → Option (List Char)
  | [] => none
  | '\\' :: _ :: rest => afterQuotes? quotes rest
  | c :: rest =>
    if quotes.isPrefixOf (c :: rest) then some ((c :: rest).drop quotes.length)
    else if quotes.length = 1 && c = '\n' then none
    else afterQuotes? quotes rest

/-- A text in quotes after some letters, and what follows it. -/
def quoted? (letters : List Char) (chars : List Char) : Option (Token × List Char) := do
  let small := String.ofList (letters.map Char.toLower)
  let quote ← chars.head?.filter fun c => c = '\'' || c = '"'
  if small ∉ ["", "r", "u", "b", "br", "rb"] then none
  else
    let three := List.replicate 3 quote
    let quotes := if three.isPrefixOf chars then three else [quote]
    let rest ← afterQuotes? quotes (chars.drop quotes.length)
    return (.text (small.contains 'b'), rest)

/-- The first token of a text, and what follows it. -/
def token? (chars : List Char) : Option (Token × List Char) :=
  match chars with
  | '.' :: '.' :: '.' :: rest => some (.word "...".toList, rest)
  | c :: rest =>
    if c.isDigit || (c = '.' && rest.head?.any Char.isDigit) then
      let number := numberPrefix none chars
      (number? number).map fun token => (token, chars.drop number.length)
    else
      let letters := chars.takeWhile isNameChar
      let after := chars.dropWhile isNameChar
      (quoted? letters after).or <|
        if letters ≠ [] then some (.word letters, after)
        else if "+-()\x7b\x7d,:".toList.contains c then some (.mark c, rest)
        else none
  | [] => none

/-- The tokens of a text; as many steps as characters are enough. -/
def tokens? : (steps : Nat) → List Char → Option (List Token)
  | 0, chars => if chars.isEmpty then some [] else none
  | steps + 1, chars =>
    match chars.dropWhile Text.isBlank with
    | [] => some []
    | chars => do
      let (token, rest) ← token? chars
      return token :: (← tokens? steps rest)

/-- A bracket that is open. -/
inductive Bracket
  | round
  /-- A set or a mapping, before its first comma or colon. -/
  | curly
  | set
  /-- A mapping, and whether the entry has its colon. -/
  | map (hasColon : Bool)
  deriving DecidableEq, Repr

/-- What has been read last. -/
inductive Reading
  /-- Nothing, a sign or a colon: a literal has to follow. -/
  | wanted
  /-- A bracket or a comma: a literal may follow. -/
  | open
  /-- A sign: a number has to follow. -/
  | signed
  /-- A number and a sign: an imaginary number has to follow. -/
  | summed
  /-- A literal; a real number and a text can be continued. -/
  | done (last : Option Token)
  deriving DecidableEq, Repr

/-- The bracket that is open after a comma. -/
def Bracket.afterComma? : Bracket → Option Bracket
  | .round => some .round
  | .curly | .set => some .set
  | .map true => some (.map false)
  | .map false => none

/-- The bracket can be closed by a character after what was read. -/
def Bracket.isClosedBy (bracket : Bracket) (c : Char) (reading : Reading) : Bool :=
  match bracket with
  | .round => c = ')'
  | .curly | .set => c = '\x7d'
  | .map hasColon => c = '\x7d' && (hasColon || reading = .open)

/-- A literal that is a word. -/
def isConstant (letters : List Char) : Bool :=
  ["True", "False", "None", "..."].contains (String.ofList letters)

/-- The tokens complete a literal, with some brackets open. -/
def completes : List Bracket → Reading → List Token → Bool
  | brackets, reading, [] =>
    brackets.isEmpty &&
      match reading with
      | .done _ | .open => true
      | _ => false
  | brackets, .signed, .number isImaginary :: rest =>
    completes brackets (.done (some (.number isImaginary))) rest
  | brackets, .summed, .number true :: rest => completes brackets (.done none) rest
  | _, .signed, _ | _, .summed, _ => false
  | brackets, .done last, token :: rest =>
    match token, brackets with
    | .mark ',', [] => completes [] .open rest
    | .mark ',', top :: below =>
      match top.afterComma? with
      | some top => completes (top :: below) .open rest
      | none => false
    | .mark ':', .curly :: below | .mark ':', .map false :: below =>
      completes (.map true :: below) .wanted rest
    | .text isBytes, _ =>
      last = some (.text isBytes) && completes brackets (.done last) rest
    | .mark c, _ =>
      if c = '+' || c = '-' then
        last = some (.number false) && completes brackets .summed rest
      else
        match brackets with
        | top :: below => top.isClosedBy c (.done last) && completes below (.done none) rest
        | [] => false
    | _, _ => false
  | brackets, reading, token :: rest =>
    match token with
    | .number _ | .text _ => completes brackets (.done (some token)) rest
    | .word letters =>
      if isConstant letters then completes brackets (.done none) rest
      else
        match rest with
        | .mark '(' :: .mark ')' :: rest =>
          letters = "set".toList && completes brackets (.done none) rest
        | _ => false
    | .mark c =>
      if c = '+' || c = '-' then completes brackets .signed rest
      else if c = '(' then completes (.round :: brackets) .open rest
      else if c = '\x7b' then completes (.curly :: brackets) .open rest
      else
        match brackets with
        | top :: below =>
          reading = .open && top.isClosedBy c reading && completes below (.done none) rest
        | [] => false

/-- The text is a literal. -/
def isLiteral (text : String) : Bool :=
  (tokens? text.length text.toList).any (completes [] .wanted)

/-- The arguments in what a tag says: what stands in brackets after a name, or nothing after a name
alone, or else the text itself. -/
def arguments (text : String) : String :=
  let rest := text.toList.dropWhile fun c => isNameChar c || c = '.'
  if rest = [] then "()"
  else if rest.head? = some '(' && rest.getLast? = some ')' && !rest.contains '\n' then
    String.ofList rest
  else text

/-- What is wrong with what a tag says to whom it calls; a tag that says nothing is all right. -/
def fault? (text : String) : Option String :=
  let arguments := arguments (Text.trim text)
  if text = "" || isLiteral arguments then none
  else
    some ("error parsing " ++ Text.quoted arguments ++ " in " ++ Text.quoted text
      ++ "; invalid syntax")

end FormatLauncher.Console.Literal

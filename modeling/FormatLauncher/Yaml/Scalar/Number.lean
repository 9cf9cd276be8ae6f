/-
# Numbers in a document

A plain text is an integer or a floating point number when it is spelled as one: integers in four
bases, both kinds in base sixty with colons between the digits.  A text that is tagged as a number
need not be spelled that way, so it may still be none when it is read.
-/

import FormatLauncher.Decimal.Reader
import FormatLauncher.Failure
import FormatLauncher.Text.LowerCase
import FormatLauncher.Yaml.Character

namespace FormatLauncher.Yaml.Number

/-- The parts of a text between occurrences of a character, the empty ones included. -/
def splitAt (mark : Char) (text : List Char) : List (List Char) := text.splitOnP (· = mark)

/-- The text without a sign at its start. -/
def dropSign : List Char → List Char
  | '-' :: rest | '+' :: rest => rest
  | text => text

/-- The text has at least one character, and all of them pass. -/
def isRun (pass : Char → Bool) (text : List Char) : Bool := !text.isEmpty && text.all pass

/-- A digit of a base up to ten, or a low line. -/
def isLoose (base : Nat) (c : Char) : Bool := c = '_' || (Text.asciiDigit? c).any (· < base)

/-- A decimal digit and then digits and low lines. -/
def isLooseRun (text : List Char) : Bool := text.head?.any isDigit && text.all (isLoose 10)

/-- A digit of base sixty: one or two decimal digits. -/
def isSixtieth : List Char → Bool
  | [a] => isDigit a
  | [a, b] => isDigit a && isDigit b && (Text.asciiDigit? a).any (· < 6)
  | _ => false

/-- At least two digits of base sixty; the first may be any number. -/
def isSexagesimal (text : List Char) : Bool :=
  match splitAt ':' text with
  | first :: second :: rest => isLooseRun first && (second :: rest).all isSixtieth
  | _ => false

/-- The text is spelled as an integer. -/
def isInteger (text : List Char) : Bool :=
  match dropSign text with
  | '0' :: 'b' :: digits => isRun (isLoose 2) digits
  | '0' :: 'x' :: digits => isRun (fun c => c = '_' || (Text.hexDigit? c).isSome) digits
  | '0' :: digits => digits.all (isLoose 8)
  | digits => isLooseRun digits || isSexagesimal digits

/-- An exponent with its letter and its sign, or nothing. -/
def isExponent : List Char → Bool
  | [] => true
  | c :: sign :: digits =>
    (c = 'e' || c = 'E') && (sign = '-' || sign = '+') && isRun isDigit digits
  | [_] => false

/-- The text is spelled as a floating point number: it has a point. -/
def isFloat (text : List Char) : Bool :=
  let digits := dropSign text
  let whole := digits.takeWhile (· ≠ '.')
  match digits.dropWhile (· ≠ '.') with
  | [] => false
  | _ :: rest =>
    let exponent := rest.dropWhile (isLoose 10)
    if whole = [] then
      ["inf", "Inf", "INF"].contains (String.ofList rest)
        || (digits = text && (["nan", "NaN", "NAN"].contains (String.ofList rest)
          || (rest.head?.any isDigit && isExponent exponent)))
    else
      (isLooseRun whole && isExponent exponent) || (isSexagesimal whole && exponent = [])

/-- Base sixty. -/
def sexagesimal : Nat := 60

/-- A number text without its low lines and its sign. -/
def unsigned (text : List Char) : Bool × List Char :=
  Decimal.splitSign (text.filter (· ≠ '_'))

/-- An integer of a base.  In decimal too many digits are refused, whatever follows them. -/
def readDigits (base : Nat) (digits : List Char) : Except DocumentFault Int :=
  let text := String.ofList digits
  let count := if base = 10 then Decimal.leadingDigits text else 0
  if Value.digitLimit < count then .error (.tooManyDigits count)
  else
    match Decimal.readInteger? base text with
    | some n => .ok n
    | none => .error (.notInteger base text)

/-- The integer a text stands for. -/
def readInteger (text : List Char) : Except DocumentFault Int :=
  let (negative, digits) := unsigned text
  let magnitude : Except DocumentFault Int :=
    match digits with
    | [] => .error .emptyNumber
    | ['0'] => .ok 0
    | '0' :: 'b' :: rest => readDigits 2 rest
    | '0' :: 'x' :: rest => readDigits 16 rest
    | '0' :: _ => readDigits 8 digits
    | _ =>
      if digits.contains ':' then
        ((splitAt ':' digits).mapM (readDigits 10)).map fun parts =>
          parts.foldl (fun value part => value * sexagesimal + part) 0
      else readDigits 10 digits
  magnitude.map fun n => if negative then -n else n

/-- A floating point number in decimal. -/
def readReal (text : List Char) : Except DocumentFault Binary64 :=
  match Decimal.readText? (String.ofList text) with
  | some x => .ok x
  | none => .error (.notNumber (String.ofList text))

/-- A sum of digits of base sixty so far, and the weight of the next digit. -/
structure SixtiethSum where
  sum : Binary64
  weight : Int

/-- One more digit, each step rounded; its weight has to be a floating point number. -/
def SixtiethSum.add (s : SixtiethSum) (digit : Binary64) : Except DocumentFault SixtiethSum :=
  let weight := Binary64.ofInt s.weight
  if weight.isInfinite then .error .weightTooLarge
  else .ok ⟨s.sum.add (digit.mul weight), s.weight * sexagesimal⟩

/-- The sum of digits of base sixty, the last digit first. -/
def sumOfSixtieths (digits : List Binary64) : Except DocumentFault Binary64 :=
  (digits.foldlM SixtiethSum.add ⟨Binary64.zero false, 1⟩).map (·.sum)

/-- The spelling of what is not a number. -/
def notANumber : String := ".nan"

/-- The text, under a tag of floating point numbers, is the one spelling of what is not a number. -/
def isNotANumber (text : List Char) : Bool :=
  String.ofList (unsigned (Text.toLower (String.ofList text)).toList).2 = notANumber

/-- The floating point number a text stands for. -/
def readFloat (text : List Char) : Except DocumentFault Binary64 :=
  let (negative, digits) := unsigned (Text.toLower (String.ofList text)).toList
  let word := String.ofList digits
  let withSign (x : Binary64) : Binary64 := if negative then x.negate else x
  if text.all (· = '_') then .error .emptyNumber
  else if word = ".inf" then .ok (withSign (.infinity false))
  else if word = notANumber then .ok .nan
  else if digits.contains ':' then do
    let parts ← (splitAt ':' digits).mapM readReal
    return withSign (← sumOfSixtieths parts.reverse)
  else (readReal digits).map withSign

end FormatLauncher.Yaml.Number

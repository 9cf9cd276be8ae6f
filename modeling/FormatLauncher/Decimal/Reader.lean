/-
# Reading numbers

Two grammars are read here, both into exact values.  A floating point text is a sign, then the word
for infinity or for no number, or digits with an optional point and an optional exponent; a low
line may stand between two digits.  An integer text is a sign and digits of a base, with an optional
mark of the base.  Digits of every script count where the text is Unicode text.
-/

import FormatLauncher.Binary64
import FormatLauncher.Text.Blank
import FormatLauncher.Text.DecimalDigit

namespace FormatLauncher.Decimal

open FormatLauncher.Text

/-- A number text made plain: blanks at the ends dropped, and above ASCII digits written in ASCII
and blanks written as a space.  Any other character above ASCII becomes a question mark, which no
number holds. -/
def plainNumber (text : List Char) : List Char :=
  let plain (c : Char) : Char :=
    if c.toNat < 0x7F then c
    else if isBlank c then ' '
    else
      match digitValue? c with
      | some d => hexDigit d
      | none => '?'
  let mapped := text.map plain
  ((mapped.dropWhile isNumberBlank).reverse.dropWhile isNumberBlank).reverse

/-- A sign, if there is one, and what follows it. -/
def splitSign : List Char → Bool × List Char
  | '-' :: rest => (true, rest)
  | '+' :: rest => (false, rest)
  | rest => (false, rest)

/-- Low lines removed, when each stands between two digits. -/
def joinDigits? : (previous : Option Char) → List Char → Option (List Char)
  | previous, [] => if previous = some '_' then none else some []
  | previous, '_' :: rest =>
    if (previous.bind asciiDigit?).isSome then joinDigits? (some '_') rest else none
  | previous, c :: rest =>
    if previous = some '_' && (asciiDigit? c).isNone then none
    else (joinDigits? (some c) rest).map (c :: ·)

/-- The value of ASCII digits; other characters count as zero. -/
def digitsValue (digits : List Char) : Nat :=
  digits.foldl (fun value c => value * 10 + (asciiDigit? c).getD 0) 0

/-- Digits, if there is at least one. -/
def someDigits? (text : List Char) : Option Nat :=
  if text ≠ [] ∧ text.all fun c => (asciiDigit? c).isSome then some (digitsValue text) else none

/-- The number nearest to `digits * 10 ^ exponent`.  Exponents far outside the range of numbers are
settled without computing the power. -/
def ofScientific (negative : Bool) (digits : Nat) (exponent : Int) : Binary64 :=
  let size := exponent + (Nat.toDigits 10 digits).length
  if digits = 0 then .zero negative
  else if 310 < size then .infinity negative
  else if size < -330 then .zero negative
  else if 0 ≤ exponent then .ofQuotient negative (digits * Nat.pow 10 exponent.toNat) 1
  else .ofQuotient negative digits (Nat.pow 10 (-exponent).toNat)

/-- The exponent part of a number text: nothing, or a letter, a sign and digits. -/
def exponentPart? : List Char → Option Int
  | [] => some 0
  | c :: rest =>
    if c = 'e' ∨ c = 'E' then
      let (negative, digits) := splitSign rest
      (someDigits? digits).map fun (n : Nat) => if negative then -(n : Int) else (n : Int)
    else none

/-- An unsigned number of digits, an optional point and an optional exponent. -/
def unsigned? (negative : Bool) (text : List Char) : Option Binary64 :=
  let isDigit (c : Char) : Bool := (asciiDigit? c).isSome
  let whole := text.takeWhile isDigit
  let (fraction, rest) :=
    match text.dropWhile isDigit with
    | '.' :: rest => (rest.takeWhile isDigit, rest.dropWhile isDigit)
    | rest => ([], rest)
  if whole ++ fraction = [] then none
  else
    (exponentPart? rest).map fun e =>
      ofScientific negative (digitsValue (whole ++ fraction)) (e - fraction.length)

/-- The words for the numbers that are not finite. -/
def word? (negative : Bool) (text : List Char) : Option Binary64 :=
  let small := String.ofList (text.map Char.toLower)
  if small = "inf" ∨ small = "infinity" then some (.infinity negative)
  else if small = "nan" then some .nan
  else none

/-- Read a plain floating point text. -/
def readPlain? (text : List Char) : Option Binary64 :=
  match joinDigits? none text with
  | none => none
  | some joined =>
    let (negative, rest) := splitSign joined
    (word? negative rest).or (unsigned? negative rest)

/-- Read a floating point number from Unicode text. -/
def readText? (text : String) : Option Binary64 := readPlain? (plainNumber text.toList)

/-- Read a floating point number from bytes; bytes above ASCII are in no number. -/
def readBytes? (bytes : List UInt8) : Option Binary64 :=
  let chars := bytes.map fun b => if b < 0x7F then Char.ofNat b.toNat else '?'
  readPlain? (plainNumber chars)

/-- The value of a digit of a base. -/
def baseDigit? (base : Nat) (c : Char) : Option Nat :=
  (hexDigit? c).filter (· < base)

/-- Drop the mark of a base: a zero and the letter of the base, in either case. -/
def dropBaseMark (base : Nat) (text : List Char) : List Char :=
  match text with
  | '0' :: c :: rest =>
    let letter := if base = 2 then 'b' else if base = 8 then 'o' else 'x'
    if base ≠ 10 ∧ c.toLower = letter then rest else text
  | _ => text

/-- The number of decimal digits at the start of Unicode text, blanks and a sign skipped. -/
def leadingDigits (text : String) : Nat :=
  ((splitSign (plainNumber text.toList)).2.takeWhile fun c => (asciiDigit? c).isSome).length

/-- Read an integer of a base from Unicode text without low lines. -/
def readInteger? (base : Nat) (text : String) : Option Int :=
  let (negative, rest) := splitSign (plainNumber text.toList)
  let digits := dropBaseMark base rest
  if digits = [] then none
  else
    (digits.mapM (baseDigit? base)).map fun values =>
      let n : Nat := values.foldl (fun value d => value * base + d) 0
      if negative then -(n : Int) else (n : Int)

end FormatLauncher.Decimal

/-
# Quoted literals

Messages show texts and bytes between quotes, so that blanks, line breaks and characters without a
visible form can be told apart.  The quote is the apostrophe, unless the text holds an apostrophe
and no quotation mark.  Quote, backslash and hidden characters are escaped; a hidden character takes
the shortest of the three hexadecimal escapes that holds its code point.
-/

import FormatLauncher.Text.DecimalDigit
import FormatLauncher.Text.Printable
import FormatLauncher.Text.Utf8

namespace FormatLauncher.Text

/-- The escapes that have a letter of their own. -/
def letterEscape? (c : Char) : Option Char :=
  if c = '\t' then some 't' else if c = '\n' then some 'n' else if c = '\r' then some 'r' else none

/-- The escape of a code point by its hexadecimal digits. -/
def hexEscape (n : Nat) : List Char :=
  if n ≤ 0xFF then '\\' :: 'x' :: hexDigits 2 n
  else if n ≤ 0xFFFF then '\\' :: 'u' :: hexDigits 4 n
  else '\\' :: 'U' :: hexDigits 8 n

/-- One character inside quotes. -/
def quotedChar (quote c : Char) : List Char :=
  if c = quote ∨ c = '\\' then ['\\', c]
  else
    match letterEscape? c with
    | some letter => ['\\', letter]
    | none => if isPrintable c then [c] else hexEscape c.toNat

/-- The quote that is used around a text. -/
def quoteFor (text : List Char) : Char :=
  if text.contains '\'' && !text.contains '"' then '"' else '\''

/-- The text as a quoted literal. -/
def quoted (text : String) : String :=
  let chars := text.toList
  let quote := quoteFor chars
  String.ofList (quote :: chars.flatMap (quotedChar quote) ++ [quote])

/-- One byte inside quotes; every byte outside visible ASCII is escaped. -/
def quotedByte (quote : Char) (b : UInt8) : List Char :=
  if b < 0x80 then quotedChar quote (Char.ofNat b.toNat) else hexEscape b.toNat

/-- Bytes as a quoted literal, marked by a letter. -/
def quotedBytes (bytes : Bytes) : String :=
  let quote := quoteFor (bytes.map fun b => Char.ofNat b.toNat)
  String.ofList ('b' :: quote :: bytes.flatMap (quotedByte quote) ++ [quote])

end FormatLauncher.Text

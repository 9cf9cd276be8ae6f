/-
# Quoted texts

Between apostrophes only the apostrophe is special, and it is written twice.  Between quotation
marks a backslash starts an escape.  In both, line breaks fold, and blanks around a break are
dropped.
-/

import FormatLauncher.Failure
import FormatLauncher.Yaml.Character

namespace FormatLauncher.Yaml.Quoted

/-- The quote around a text. -/
inductive Style
  | single
  | double
  deriving DecidableEq, Repr

/-- The quote's character. -/
def Style.quote : Style → Char
  | .single => '\''
  | .double => '"'

/-- The escapes that stand for one character. -/
def simpleEscapes : List (Char × Char) := [
  ('0', '\x00'), ('a', '\x07'), ('b', '\x08'), ('t', '\t'), ('\t', '\t'), ('n', '\n'),
  ('v', '\x0B'), ('f', '\x0C'), ('r', '\r'), ('e', '\x1B'), (' ', ' '), ('"', '"'), ('\\', '\\'),
  ('/', '/'), ('N', '\u0085'), ('_', '\u00A0'), ('L', '\u2028'), ('P', '\u2029')]

/-- The escapes that are followed by hexadecimal digits, and how many. -/
def hexEscapes : List (Char × Nat) := [('x', 2), ('u', 4), ('U', 8)]

/-- A text that was read, or its fault. -/
abbrev Result := Except DocumentFault (List Char × List Char)

/-- The character of a code point.  Half of a surrogate pair is none. -/
def ofCode (code : Nat) : Except DocumentFault Char :=
  if 0x110000 ≤ code then .error (.codePoint code)
  else if 0xD800 ≤ code ∧ code ≤ 0xDFFF then .error .malformed
  else .ok (Char.ofNat code)

/-- The character that some hexadecimal digits stand for. -/
def ofDigits (digits : List Char) : Except DocumentFault Char :=
  match digits.mapM Text.hexDigit? with
  | none => .error .malformed
  | some values => ofCode (values.foldl (fun code d => code * 16 + d) 0)

/-- The breaks of empty lines, the blanks between them dropped.  A mark of a document may not start
a line here. -/
def emptyLines : (atStart : Bool) → List Char → Result
  | _, [] => .ok ([], [])
  | atStart, c :: rest =>
    if atStart && isDocumentMark (c :: rest) then .error .malformed
    else if isGap c then emptyLines false rest
    else if isBreak c then
      match emptyLines true rest with
      | .ok (breaks, rest) => .ok (c :: breaks, rest)
      | fault => fault
    else .ok ([], c :: rest)

/-- Blanks and breaks inside a text, as they count there. -/
def readGap (text : List Char) : Result :=
  match text.dropWhile isGap with
  | [] => .error .unclosed
  | c :: rest =>
    if isBreak c then
      match emptyLines true rest with
      | .ok (breaks, rest) => .ok (foldBreaks c breaks, rest)
      | fault => fault
    else .ok (text.takeWhile isGap, c :: rest)

/-- What an escape stands for; the text starts after the backslash. -/
def readEscape : List Char → Result
  | [] => .error .unclosed
  | c :: rest =>
    match simpleEscapes.lookup c with
    | some plain => .ok ([plain], rest)
    | none =>
      match hexEscapes.lookup c with
      | some count =>
        if rest.length < count ∧ rest.all fun c => (Text.hexDigit? c).isSome then
          .error .unclosed
        else if rest.length < count then .error .malformed
        else (ofDigits (rest.take count)).map fun c => ([c], rest.drop count)
      | none => if isBreak c then emptyLines true rest else .error .malformed

/-- A text up to its closing quote, and what follows the quote. -/
def scan (style : Style) : (fuel : Nat) → List Char → Result
  | 0, _ => .error .unclosed
  | _, [] => .error .unclosed
  | fuel + 1, c :: rest =>
    let continueWith (piece : List Char) (rest : List Char) : Result :=
      match scan style fuel rest with
      | .ok (text, rest) => .ok (piece ++ text, rest)
      | fault => fault
    let continueAfter : Result → Result
      | .ok (piece, rest) => continueWith piece rest
      | fault => fault
    if c = style.quote then
      if style = .single && rest.head? = some '\'' then continueWith ['\''] rest.tail
      else .ok ([], rest)
    else if style = .double && c = '\\' then continueAfter (readEscape rest)
    else if isGap c || isBreak c then continueAfter (readGap (c :: rest))
    else continueWith [c] rest

end FormatLauncher.Yaml.Quoted

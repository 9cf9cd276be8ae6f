/-
# Plain texts

A plain text stands without quotes.  It is made of words with gaps between them; a gap is either
spaces, which stay, or line breaks, which fold.  It ends before a comment, before a mark of the
structure, and at a line that is not indented far enough.
-/

import FormatLauncher.Yaml.Character

namespace FormatLauncher.Yaml.Plain

/-- A word of a plain text and what follows it.  A colon ends a word when nothing of the word comes
after it; inside brackets and braces their marks end it too. -/
def takeWord (inFlow : Bool) : List Char → List Char × List Char
  | [] => ([], [])
  | c :: rest =>
    let ends := endsWord [c]
      || (c = ':' && (endsWord rest || (inFlow && rest.head?.any isFlowMark)))
      || (inFlow && (c = '?' || isFlowMark c))
    if ends then ([], c :: rest)
    else
      let (word, rest) := takeWord inFlow rest
      (c :: word, rest)

/-- Empty lines and the spaces before the next text. -/
structure BlankLines where
  breaks : List Char
  /-- The number of spaces before the next text. -/
  column : Nat
  rest : List Char
  /-- The next text is a mark that starts or ends a document. -/
  atMark : Bool

/-- The empty lines after a break. -/
def blankLines : (column : Nat) → List Char → BlankLines
  | column, [] => ⟨[], column, [], false⟩
  | column, c :: rest =>
    if column = 0 && isDocumentMark (c :: rest) then ⟨[], 0, c :: rest, true⟩
    else if c = ' ' then blankLines (column + 1) rest
    else if isBreak c then
      let lines := blankLines 0 rest
      { lines with breaks := c :: lines.breaks }
    else ⟨[], column, c :: rest, false⟩

/-- The gap after a word. -/
structure Gap where
  /-- What the gap counts as inside the text; empty when the text ends here. -/
  text : List Char
  /-- The gap holds a line break, and the next text starts at this column. -/
  column? : Option Nat
  rest : List Char

/-- The gap at the start of a text. -/
def readGap (text : List Char) : Gap :=
  let spaces := text.takeWhile (· = ' ')
  match text.dropWhile (· = ' ') with
  | [] => ⟨spaces, none, []⟩
  | c :: rest =>
    if isBreak c then
      let lines := blankLines 0 rest
      ⟨if lines.atMark then [] else foldBreaks c lines.breaks, some lines.column, lines.rest⟩
    else ⟨spaces, none, c :: rest⟩

/-- A plain text and what follows it. -/
structure Scan where
  text : List Char
  rest : List Char
  /-- The gap after the text holds a line break. -/
  crossed : Bool

/-- A plain text whose further lines are indented to a column. -/
def scan (inFlow : Bool) (indent : Int) : (fuel : Nat) → List Char → Scan
  | 0, text => ⟨[], text, false⟩
  | fuel + 1, text =>
    let (word, rest) := takeWord inFlow text
    if word = [] then ⟨[], text, false⟩
    else
      let gap := readGap rest
      let ended : Scan := ⟨word, gap.rest, gap.column?.isSome⟩
      let outdented := !inFlow && gap.column?.any fun column => decide ((column : Int) < indent)
      if gap.text = [] || gap.rest.head? = some '#' || outdented then ended
      else
        let tail := scan inFlow indent fuel gap.rest
        if tail.text = [] then ended else { tail with text := word ++ gap.text ++ tail.text }

end FormatLauncher.Yaml.Plain

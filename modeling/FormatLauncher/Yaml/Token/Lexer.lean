/-
# Cutting a document into tokens

The lexer goes through the text once.  It remembers how deep the blocks are indented, and which
token may still turn out to be a key: that is known only when its colon comes, on the same line and
not too far away.  Then the token of the key is put before it.  Where nothing can be read the tokens
end with a broken one, placed where a reader that waits for keys to be decided would meet it.
-/

import FormatLauncher.Yaml.Scalar.Block
import FormatLauncher.Yaml.Scalar.Plain
import FormatLauncher.Yaml.Scalar.Quoted
import FormatLauncher.Yaml.Source
import FormatLauncher.Yaml.Token.Label

namespace FormatLauncher.Yaml

/-- The text from a position on, and the position. -/
structure Cursor where
  rest : List Char
  index : Nat
  line : Nat
  column : Nat

namespace Cursor

/-- The byte order mark, which takes no column. -/
def orderMark : Char := '\uFEFF'

/-- The cursor after some characters. -/
def advance : (count : Nat) → Cursor → Cursor
  | 0, cursor => cursor
  | count + 1, ⟨rest, index, line, column⟩ =>
    match rest with
    | [] => ⟨[], index, line, column⟩
    | c :: rest =>
      if isBreak c then advance count ⟨rest, index + 1, line + 1, 0⟩
      else advance count ⟨rest, index + 1, line, if c = orderMark then column else column + 1⟩

/-- The cursor before an end of its text. -/
def moveTo (cursor : Cursor) (rest : List Char) : Cursor :=
  cursor.advance (cursor.rest.length - rest.length)

end Cursor

/-- A token that may turn out to be a key. -/
structure PossibleKey where
  /-- The number of tokens before it. -/
  position : Nat
  /-- It has to be a key, because it stands where a block's entries start. -/
  required : Bool
  cursor : Cursor

/-- The state of the lexer. -/
structure Lexer where
  cursor : Cursor
  /-- What is wrong with what follows the text, if anything is. -/
  ending : Option DocumentFault
  tokens : List Token
  /-- The column of the innermost block; negative outside all blocks. -/
  indent : Int
  /-- The columns of the blocks around it. -/
  outerIndents : List Int
  /-- The possible key at this depth of brackets and braces. -/
  possibleKey : Option PossibleKey
  /-- The possible keys at the depths around it. -/
  outerKeys : List (Option PossibleKey)
  /-- A key may start here. -/
  keyAllowed : Bool

namespace Lexer

/-- The longest way from a key's start to its colon. -/
def keyReach : Nat := 1024

/-- The lexer at the start of a text. -/
def start (text : List Char) (ending : Option DocumentFault) : Lexer :=
  ⟨⟨text, 0, 0, 0⟩, ending, [], -1, [], none, [], true⟩

/-- Inside brackets or braces. -/
def inFlow (l : Lexer) : Bool := !l.outerKeys.isEmpty

/-- The text that is left. -/
def rest (l : Lexer) : List Char := l.cursor.rest

/-- The lexer with one more token. -/
def push (l : Lexer) (t : Token) : Lexer := { l with tokens := l.tokens ++ [t] }

/-- The lexer after some characters. -/
def skip (l : Lexer) (count : Nat) : Lexer := { l with cursor := l.cursor.advance count }

/-- The lexer with one more token, before an end of its text. -/
def pushTo (l : Lexer) (t : Token) (rest : List Char) : Lexer :=
  { l.push t with cursor := l.cursor.moveTo rest }

/-- Skip spaces, comments and breaks.  Outside brackets and braces a key may start on a new line. -/
def skipBlank : (fuel : Nat) → Lexer → Lexer
  | 0, l => l
  | fuel + 1, l =>
    let text := Label.skipSpaces l.rest
    let text := if text.head? = some '#' then text.dropWhile fun c => !isBreak c else text
    let l := { l with cursor := l.cursor.moveTo text }
    if text.head?.any isBreak then
      skipBlank fuel { l.skip 1 with keyAllowed := l.keyAllowed || !l.inFlow }
    else l

/-- The possible key is too far away to be a key. -/
def isStale (l : Lexer) (key : PossibleKey) : Bool :=
  key.cursor.line ≠ l.cursor.line || keyReach < l.cursor.index - key.cursor.index

/-- Give up possible keys that are too far away; none when one of them had to be a key. -/
def dropStale? (l : Lexer) : Option Lexer :=
  let stale (key : Option PossibleKey) : Bool := key.any l.isStale
  let keep (key : Option PossibleKey) : Option PossibleKey := if stale key then none else key
  if (l.possibleKey :: l.outerKeys).any fun key => stale key && key.any (·.required) then none
  else some { l with possibleKey := keep l.possibleKey, outerKeys := l.outerKeys.map keep }

/-- Close the blocks that are indented beyond a column. -/
def closeBlocksIn : (outer : List Int) → (column : Int) → Lexer → Lexer
  | [], _, l => l
  | indent :: outer, column, l =>
    if column < l.indent then
      closeBlocksIn outer column { l.push .blockEnd with indent, outerIndents := outer }
    else l

/-- Close the blocks that are indented beyond a column; inside brackets and braces columns do not
count. -/
def closeBlocks (l : Lexer) (column : Int) : Lexer :=
  if l.inFlow then l else closeBlocksIn l.outerIndents column l

/-- Open a block at a column, unless there is one; its token is put at a position. -/
def openBlock (l : Lexer) (column : Nat) (t : Token) (position : Nat) : Lexer :=
  if l.indent < column then
    { l with
      indent := column
      outerIndents := l.indent :: l.outerIndents
      tokens := l.tokens.take position ++ t :: l.tokens.drop position }
  else l

/-- The next token may be a key; none when the one before it had to be. -/
def savePossibleKey? (l : Lexer) : Option Lexer :=
  if !l.keyAllowed then some l
  else if l.possibleKey.any (·.required) then none
  else
    let required := !l.inFlow && decide (l.indent = l.cursor.column)
    some { l with possibleKey := some ⟨l.tokens.length, required, l.cursor⟩ }

/-- The possible key is none; the answer is none when it had to be one. -/
def removePossibleKey? (l : Lexer) : Option Lexer :=
  if l.possibleKey.any (·.required) then none else some { l with possibleKey := none }

/-- Read a mark of a document, or the end of the text: all blocks end. -/
def outside? (l : Lexer) : Option Lexer := do
  let l ← (l.closeBlocks (-1)).removePossibleKey?
  some { l with keyAllowed := false }

/-- Read an opening bracket or brace. -/
def openFlow? (l : Lexer) (t : Token) : Option Lexer := do
  let l ← l.savePossibleKey?
  some { (l.push t).skip 1 with
    possibleKey := none, outerKeys := l.possibleKey :: l.outerKeys, keyAllowed := true }

/-- Read a closing bracket or brace. -/
def closeFlow? (l : Lexer) (t : Token) : Option Lexer :=
  match l.outerKeys with
  | [] => none
  | key :: outer =>
    some { (l.push t).skip 1 with possibleKey := key, outerKeys := outer, keyAllowed := false }

/-- Read a comma. -/
def flowEntry? (l : Lexer) : Option Lexer := do
  let l ← l.removePossibleKey?
  some { (l.push .flowEntry).skip 1 with keyAllowed := true }

/-- Read a mark that starts an entry of a block, which it may open. -/
def blockMark? (l : Lexer) (opening mark : Token) (keyAllowed : Bool) : Option Lexer := do
  if !l.inFlow && !l.keyAllowed then none
  else
    let l := if l.inFlow then l else l.openBlock l.cursor.column opening l.tokens.length
    let l ← l.removePossibleKey?
    some { (l.push mark).skip 1 with keyAllowed }

/-- Read a colon after a value's key: the possible key, or nothing. -/
def value? (l : Lexer) : Option Lexer :=
  match l.possibleKey with
  | some key =>
    let position := key.position
    let withKey := { l with
      tokens := l.tokens.take position ++ Token.key :: l.tokens.drop position
      possibleKey := none
      keyAllowed := false }
    let opened :=
      if l.inFlow then withKey
      else withKey.openBlock key.cursor.column .blockMappingStart position
    some ((opened.push .value).skip 1)
  | none => l.blockMark? .blockMappingStart .value (!l.inFlow)

/-- Read a token that may be a key; the text after it is given. -/
def labelTo? (l : Lexer) (t : Token) (rest : List Char) : Option Lexer := do
  let l ← l.savePossibleKey?
  some { l.pushTo t rest with keyAllowed := false }

/-- A plain text may start here. -/
def startsPlain (l : Lexer) : Bool :=
  match l.rest with
  | [] => false
  | c :: rest =>
    let special := ['-', '?', ':', ',', '[', ']', '\x7b', '\x7d', '#', '&', '*', '!', '|', '>',
      '\'', '"', '%', '@', '\x60']
    (!endsWord [c] && !special.contains c)
      || (!endsWord rest && (c = '-' || (!l.inFlow && (c = '?' || c = ':'))))

/-- Read a block text. -/
def block (l : Lexer) (folded : Bool) : Except DocumentFault Lexer :=
  match l.removePossibleKey? with
  | none => .error .malformed
  | some l =>
    (Block.scan folded l.indent l.rest.tail).map fun (text, rest) =>
      { l.pushTo (.scalar (String.ofList text) false) rest with keyAllowed := true }

/-- Read a quoted text. -/
def quoted (l : Lexer) (style : Quoted.Style) : Except DocumentFault Lexer :=
  match l.savePossibleKey? with
  | none => .error .malformed
  | some l =>
    (Quoted.scan style l.rest.length l.rest.tail).map fun (text, rest) =>
      { l.pushTo (.scalar (String.ofList text) false) rest with keyAllowed := false }

/-- Read a plain text. -/
def plain (l : Lexer) : Except DocumentFault Lexer :=
  match l.savePossibleKey? with
  | none => .error .malformed
  | some l =>
    let scan := Plain.scan l.inFlow (l.indent + 1) l.rest.length l.rest
    let l := l.pushTo (.scalar (String.ofList scan.text) true) scan.rest
    .ok { l with keyAllowed := scan.crossed }

/-- Read the token at the start of the text; nothing is blank there. -/
def readToken (l : Lexer) (c : Char) (after : List Char) : Except DocumentFault Lexer :=
  let atLineStart := l.cursor.column = 0
  if c = '%' && atLineStart then
    do
      let l ← Label.required l.outside?
      let (directive, rest) ← Label.readDirective after
      return l.pushTo (.directive directive) rest
  else if atLineStart && startsDocument l.rest then
    Label.required do some (((← l.outside?).push .documentStart).skip 3)
  else if atLineStart && endsDocument l.rest then
    Label.required do some (((← l.outside?).push .documentEnd).skip 3)
  else if c = '[' then Label.required (l.openFlow? .flowSequenceStart)
  else if c = '\x7b' then Label.required (l.openFlow? .flowMappingStart)
  else if c = ']' then Label.required (l.closeFlow? .flowSequenceEnd)
  else if c = '\x7d' then Label.required (l.closeFlow? .flowMappingEnd)
  else if c = ',' then Label.required l.flowEntry?
  else if c = '-' && endsWord after then
    Label.required (l.blockMark? .blockSequenceStart .blockEntry true)
  else if c = '?' && (l.inFlow || endsWord after) then
    Label.required (l.blockMark? .blockMappingStart .key (!l.inFlow))
  else if c = ':' && (l.inFlow || endsWord after) then Label.required l.value?
  else if c = '*' then
    Label.required do
      let (name, rest) ← Label.readAnchor after
      l.labelTo? (.alias name) rest
  else if c = '&' then
    Label.required do
      let (name, rest) ← Label.readAnchor after
      l.labelTo? (.anchor name) rest
  else if c = '!' then
    Label.required do
      let ((handle, name), rest) ← Label.readTag after
      l.labelTo? (.tag handle name) rest
  else if c = '|' && !l.inFlow then l.block false
  else if c = '>' && !l.inFlow then l.block true
  else if c = '\'' then l.quoted .single
  else if c = '"' then l.quoted .double
  else if l.startsPlain then l.plain
  else .error .malformed

/-- The first token that waits to be decided, or the number of tokens. -/
def decidedCount (l : Lexer) : Nat :=
  ((l.outerKeys.reverse ++ [l.possibleKey]).findSome? fun key => key.map (·.position)).getD
    l.tokens.length

/-- The tokens that are decided, and then a broken one. -/
def breakOff (l : Lexer) (fault : DocumentFault) : List Token :=
  l.tokens.take l.decidedCount ++ [.broken fault]

/-- The fault of what follows the text, when the lexer looks at it: at most one character is left. -/
def reached (l : Lexer) : Option DocumentFault :=
  match l.rest with
  | [] | [_] => l.ending
  | _ => none

/-- The fault of a token that cannot be read: when the text ends in it, that of what follows. -/
def tokenFault (l : Lexer) (fault : DocumentFault) : DocumentFault :=
  if fault = .unclosed then l.ending.getD fault else fault

/-- The tokens of the rest of the text. -/
def run : (fuel : Nat) → Lexer → List Token
  | 0, l => l.breakOff .malformed
  | fuel + 1, l =>
    let l := l.skipBlank (l.rest.length + 1)
    match l.reached, l.dropStale? with
    | some fault, _ => l.breakOff fault
    | none, none => l.breakOff .malformed
    | none, some l =>
      let l := l.closeBlocks l.cursor.column
      match l.rest with
      | [] =>
        match l.outside? with
        | some l => l.tokens
        | none => l.breakOff .malformed
      | c :: after =>
        match l.readToken c after with
        | .error fault => l.breakOff (l.tokenFault fault)
        | .ok next =>
          match next.reached with
          | some fault => l.breakOff fault
          | none => run fuel next

end Lexer

/-- The tokens of a source.  A byte order mark at its start is dropped. -/
def Source.tokens (source : Source) : List Token :=
  let text := unifyBreaks source.text
  let start := Lexer.start text source.ending
  let start := if text.head? = some Cursor.orderMark then start.skip 1 else start
  start.run (text.length + 1)

end FormatLauncher.Yaml

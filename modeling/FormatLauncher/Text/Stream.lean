/-
# Text read in portions

The text of a file is asked for in portions of a fixed number of characters, and its bytes are
fetched in chunks.  A bad piece is met when its chunk is fetched: its position is counted from the
start of that chunk, what the chunk before left over included, and the portions that were complete
by then have been handed out.  In the text every line ends with a line feed.
-/

import FormatLauncher.Text.Utf8

namespace FormatLauncher.Text

/-- The text with its carriage returns, with or without a line feed after them, as line feeds. -/
def unifyReturns : List Char → List Char
  | [] => []
  | '\r' :: '\n' :: rest => '\n' :: unifyReturns rest
  | c :: rest => (if c = '\r' then '\n' else c) :: unifyReturns rest

/-- The text of a file, or the complete portions of it before an error. -/
structure Stream where
  text : List Char
  error : Option Utf8.Error

namespace Stream

/-- The number of characters in a portion. -/
def portion : Nat := 4096

/-- The number of bytes in a chunk, unless more are expected to be needed. -/
def usualChunk : Nat := 8192

/-- How far the bytes of a file have been read. -/
structure Progress where
  rest : Bytes
  /-- The bytes of a character that the last chunk cut off. -/
  pending : Bytes
  /-- The last chunk ended in a carriage return, which may belong to a line feed. -/
  isHeld : Bool
  chars : Array Char
  /-- The bytes and the characters of the last chunk. -/
  last : Nat × Nat

namespace Progress

/-- The characters that are missing in the portion that is being filled. -/
def missing (p : Progress) : Nat := portion - p.chars.size % portion

/-- The size of the next chunk: enough for the portion, if characters take as many bytes as they
did in the last chunk. -/
def chunkSize (p : Progress) : Nat :=
  max usualChunk (max p.missing (p.last.1 * p.missing / p.last.2))

/-- The complete portions. -/
def complete (p : Progress) : List Char :=
  (p.chars.extract 0 (p.chars.size / portion * portion)).toList

/-- The stream that ends with an error. -/
def fail (p : Progress) (e : Utf8.Error) : Stream := ⟨p.complete, some e⟩

/-- The stream that ends where the bytes end. -/
def finish (p : Progress) : Stream :=
  if p.pending ≠ [] then p.fail ⟨0, p.pending, .truncated⟩
  else ⟨p.chars.toList ++ (if p.isHeld then ['\n'] else []), none⟩

/-- The bytes of a character that is cut off at the end of some pieces, and the other pieces. -/
def splitPending (pieces : List Utf8.Piece) : List Utf8.Piece × Bytes :=
  match pieces.getLast? with
  | some (.bad bytes .truncated) => (pieces.dropLast, bytes)
  | _ => (pieces, [])

/-- One more chunk. -/
def fetch (p : Progress) : Except Utf8.Error Progress :=
  let chunk := p.rest.take p.chunkSize
  let (pieces, pending) := splitPending (Utf8.pieces (p.pending ++ chunk))
  match Utf8.strictChars 0 pieces with
  | .error e => .error e
  | .ok chars =>
    let chars := if p.isHeld && !chars.isEmpty then '\r' :: chars else chars
    let isHeld := if chars.isEmpty then p.isHeld else chars.getLast? = some '\r'
    let chars := unifyReturns (if isHeld then chars.dropLast else chars)
    .ok {
      rest := p.rest.drop p.chunkSize
      pending
      isHeld
      chars := p.chars ++ chars.toArray
      last := (chunk.length, chars.length) }

/-- The stream from here on. -/
def run : (fuel : Nat) → Progress → Stream
  | 0, p => p.finish
  | fuel + 1, p =>
    if p.rest = [] then p.finish
    else
      match p.fetch with
      | .ok next => run fuel next
      | .error e => p.fail e

end Progress

/-- The text of a file's bytes. -/
def ofBytes (bytes : Bytes) : Stream :=
  Progress.run (bytes.length + 1) ⟨bytes, [], false, #[], (0, 0)⟩

end Stream

end FormatLauncher.Text

/-
# Tokens of a document

A document is cut into tokens before its structure is read.  Indentation becomes tokens of its own,
so that the structure no longer depends on columns.
-/

import FormatLauncher.Failure

namespace FormatLauncher.Yaml

/-- A line before a document that says how to read it. -/
inductive Directive
  /-- The version of the format, its first number. -/
  | version (major : Nat)
  /-- A handle for the beginnings of tags. -/
  | tag (handle start : String)
  /-- Any other directive; it says nothing. -/
  | other
  deriving DecidableEq, Repr

/-- A token. -/
inductive Token
  | directive (d : Directive)
  | documentStart
  | documentEnd
  | blockSequenceStart
  | blockMappingStart
  | blockEnd
  | flowSequenceStart
  | flowSequenceEnd
  | flowMappingStart
  | flowMappingEnd
  /-- The hyphen before an entry of a block. -/
  | blockEntry
  /-- The comma between entries. -/
  | flowEntry
  | key
  | value
  | alias (name : String)
  | anchor (name : String)
  /-- A tag: its handle, if it has one, and the rest of it. -/
  | tag (handle : Option String) (rest : String)
  | scalar (text : String) (isPlain : Bool)
  /-- Nothing can be read from here on. -/
  | broken (fault : DocumentFault)
  deriving DecidableEq, Repr

end FormatLauncher.Yaml

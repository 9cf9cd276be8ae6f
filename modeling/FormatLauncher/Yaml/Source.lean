/-
# The source of a document

A document is read from a stream.  The reader looks at the characters of a portion when the portion
arrives, the first two portions together, and refuses those that may not stand in a document.  So a
fault of the characters is met only when the portions before have been read without one.
-/

import FormatLauncher.Failure
import FormatLauncher.Text.Stream
import FormatLauncher.Yaml.Character

namespace FormatLauncher.Yaml

/-- The text of a document as far as it can be read, and what is wrong with what follows, if
anything is. -/
structure Source where
  text : List Char
  ending : Option DocumentFault

namespace Source

/-- The characters that are looked at first. -/
def firstLook : Nat := 2 * Text.Stream.portion

/-- Where the portion of a character starts that is looked at together with it. -/
def lookStart (index : Nat) : Nat :=
  if index < firstLook then 0 else index / Text.Stream.portion * Text.Stream.portion

/-- The source of a stream.  When not even the first portions arrive, nothing of them is read. -/
def ofStream (stream : Text.Stream) : Source :=
  let isShort := stream.error.isSome && decide (stream.text.length < firstLook)
  let text := if isShort then [] else stream.text
  match text.findIdx? fun c => !isAllowed c with
  | some index => ⟨text.take (lookStart index), some .malformed⟩
  | none => ⟨text, stream.error.map .undecodable⟩

/-- The source of a text that is there as a whole. -/
def ofText (text : String) : Source := ofStream ⟨text.toList, none⟩

end Source

end FormatLauncher.Yaml

/-
# The values of texts

A text becomes a value by its tag.  Tags of collections and tags that nothing reads are refused.
-/

import FormatLauncher.Value.Basic
import FormatLauncher.Yaml.Scalar.Base64
import FormatLauncher.Yaml.Tag

namespace FormatLauncher.Yaml

/-- The truth value a word stands for. -/
def readTruth (text : List Char) : Except DocumentFault Bool :=
  let word := Text.toLower (String.ofList text)
  match Tag.truthWords.lookup word with
  | some b => .ok b
  | none => .error (.notTruth word)

/-- The value of a text under a tag. -/
def Tag.readText (tag : Tag) (text : List Char) : Except DocumentFault Value :=
  match tag with
  | .null => .ok .null
  | .bool => (readTruth text).map .bool
  | .int => (Number.readInteger text).map .int
  | .float => (Number.readFloat text).map .float
  | .binary =>
    match Base64.decode text with
    | some bytes => .ok (.bytes bytes)
    | none => .error .malformed
  | .timestamp => (Timestamp.moment text).map fun
    | .day d => .date d
    | .time t => .time t
  | .text => .ok (.text (String.ofList text))
  | .list | .map | .pairs | .set | .merge | .value | .unknown => .error .malformed

/-- The tag belongs to a collection. -/
def Tag.isCollection : Tag → Bool
  | .list | .map | .pairs | .set => true
  | _ => false

/-- Something reads the tag. -/
def Tag.isRead : Tag → Bool
  | .merge | .value | .unknown => false
  | _ => true

end FormatLauncher.Yaml

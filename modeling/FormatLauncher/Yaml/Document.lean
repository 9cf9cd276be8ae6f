/-
# The value of a document

The parts of a document are put together from its root on.  A container that stands inside itself is
spelled out a fixed number of times on every way down and carries its place as its mark.
-/

import FormatLauncher.Yaml.Graph.Grammar
import FormatLauncher.Yaml.Part
import FormatLauncher.Yaml.Token.Lexer

namespace FormatLauncher.Yaml

namespace Part

/-- The places below a part. -/
def below : Part → List Nat
  | .list items | .tuple items => items
  | .map entries => entries.map (·.2)
  | .waiting | .leaf _ _ | .set _ => []

/-- The value of a part, from the values below it. -/
def toValue (part : Part) (below : List Value) : Value :=
  match part with
  | .waiting => .null
  | .leaf value _ => value
  | .list _ => .list below
  | .tuple _ => .tuple below
  | .map entries => .map ((entries.map (·.1)).zip below)
  | .set items => .set items

end Part

/-- How often a container inside itself is spelled out. -/
def spellings : Nat := 3

/-- A value that is put together, and the places that are met inside themselves on its way. -/
abbrev Assembled := Value × List Nat

/-- The values that are known to depend on nothing above them. -/
abbrev Settled := Array (Option Assembled)

/-- The value at a place that is met below some places.  It depends on what is above it if one of
those places is met again in it; otherwise it is the same wherever it is met. -/
def assemble (parts : Array (Option Part)) :
    (fuel : Nat) → (above : List Nat) → Nat → StateM Settled Assembled
  | 0, _, _ => return (.null, [])
  | fuel + 1, above, place => do
    if let some (some assembled) := (← get)[place]? then
      return assembled
    let part := ((parts[place]?).join).getD .waiting
    let below := if above.count place < spellings then part.below else []
    let results ← below.mapM (assemble parts fuel (place :: above))
    let value := part.toValue (results.map (·.1))
    let met := results.flatMap (·.2)
    let met := (if above.contains place then place :: met else met).eraseDups
    let value := if met.contains place then .circular place value else value
    unless met.any above.contains do
      modify fun settled => settled.setIfInBounds place (some (value, met))
    return (value, met)

/-- The value of a document, from its parts. -/
def ofParts (parts : Array (Option Part)) (root : Nat) : Value :=
  ((assemble parts (spellings * parts.size + 1) [] root).run (Array.replicate parts.size none)).1.1

/-- The value of a document; a source without a document is null. -/
def Source.read (source : Source) : Except DocumentFault Value := do
  match ← Graph.ofTokens source.tokens with
  | (_, none) => return .null
  | (g, some root) => return ofParts (← Assembly.parts? g root) root

end FormatLauncher.Yaml

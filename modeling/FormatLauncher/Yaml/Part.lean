/-
# The parts of a document

The nodes of a document are read from its root on, one after the other: a text gets its value at
once, a collection only waits until all that were met before it have been read.  So of several faults
the one that is met first in this order is reported.  What is read of a node is its part: a value, or
a container of the places below it.
-/

import FormatLauncher.Value.Order
import FormatLauncher.Yaml.Graph.Merge
import FormatLauncher.Yaml.Scalar.Value

namespace FormatLauncher.Yaml

/-- What is read of a node. -/
inductive Part
  /-- A collection that is not read yet. -/
  | waiting
  /-- A value that can be a key.  The constant that is not a number is the same key wherever it
  stands; any other number of that kind is the same only as itself. -/
  | leaf (value : Value) (isConstant : Bool)
  | list (items : List Nat)
  | tuple (items : List Nat)
  | map (entries : List (Value × Nat))
  | set (items : List Value)

/-- The reading of a document. -/
structure Assembly where
  graph : Graph
  /-- The parts of the nodes, and after them those of pairs, which are no nodes. -/
  parts : Array (Option Part)
  /-- The collections that wait, the last one first. -/
  waiting : List Nat

namespace Assembly

/-- A step of reading. -/
abbrev Step := StateT Assembly (Except DocumentFault)

/-- Set the part at a place. -/
def put (place : Nat) (part : Part) : Step Unit :=
  modify fun a => { a with parts := a.parts.setIfInBounds place (some part) }

/-- Add a part that belongs to no node; the answer is its place. -/
def add (part : Part) : Step Nat := do
  let place := (← get).parts.size
  modify fun a => { a with parts := a.parts.push (some part) }
  return place

/-- The part at a place, if it is there. -/
def partAt? (a : Assembly) (place : Nat) : Option Part := (a.parts[place]?).join

/-- The part of a node that stands for a text. -/
def readLeaf (g : Graph) (place : Nat) : Except DocumentFault Part := do
  let node := g.nodeAt place
  unless node.tag.isRead do throw .malformed
  let text ← g.textAt (g.size + 1) place
  match node.tag, node.content with
  | .timestamp, .map _ => throw .mappingAsTime
  | tag, _ =>
    let value ← tag.readText text
    return .leaf value (tag = .float && Number.isNotANumber text)

/-- Read a node, unless it is read: a text as a whole, a collection later. -/
def visit (place : Nat) : Step Unit := do
  let a ← get
  if (a.partAt? place).isNone then
    if (a.graph.tagAt place).isCollection then
      put place .waiting
      modify fun a => { a with waiting := place :: a.waiting }
    else
      put place (← readLeaf a.graph place)

/-- A key: its place, its value, and whether it is the constant that is not a number. -/
structure Key where
  place : Nat
  value : Value
  isConstant : Bool

/-- Two keys are the same: equal values, or one and the same value. -/
def Key.same (a b : Key) : Bool :=
  a.place == b.place || (a.isConstant && b.isConstant) || a.value.same b.value

/-- Read a key. -/
def visitKey (place : Nat) : Step Key := do
  visit place
  match (← get).partAt? place with
  | some (.leaf value isConstant) => return ⟨place, value, isConstant⟩
  | _ => throw .malformed

/-- Put an entry among entries: a key that is there keeps its place and its first spelling. -/
def insertEntry (entries : List (Key × Nat)) (key : Key) (value : Nat) : List (Key × Nat) :=
  match entries with
  | [] => [(key, value)]
  | (k, v) :: rest =>
    if k.same key then (k, value) :: rest else (k, v) :: insertEntry rest key value

/-- The entries of a mapping, merged ones included; of the same key the last value counts. -/
def readEntries (place : Nat) : Step (List (Key × Nat)) := do
  let (entries, graph) ← (Graph.mergedEntries place).run (← get).graph
  modify fun a => { a with graph }
  entries.foldlM (fun read (keyPlace, valuePlace) => do
    let key ← visitKey keyPlace
    visit valuePlace
    return insertEntry read key valuePlace) []

/-- Read an item of a list of pairs: a mapping with one entry. -/
def readPair (place : Nat) : Step Nat := do
  match ((← get).graph.nodeAt place).content with
  | .map [(key, value)] =>
    visit key
    visit value
    add (.tuple [key, value])
  | _ => throw .malformed

/-- Read a collection that waits. -/
def readCollection (place : Nat) : Step Unit := do
  let node := (← get).graph.nodeAt place
  match node.tag, node.content with
  | .list, .list items =>
    items.forM visit
    put place (.list items)
  | .pairs, .list items => put place (.list (← items.mapM readPair))
  | .map, .map _ =>
    put place (.map ((← readEntries place).map fun (key, value) => (key.value, value)))
  | .set, .map _ => put place (.set ((← readEntries place).map fun (key, _) => key.value))
  | _, _ => throw .malformed

/-- Read the collections that wait, and those that they hold. -/
def readWaiting : (fuel : Nat) → Step Unit
  | 0 => pure ()
  | fuel + 1 => do
    let waiting := (← get).waiting.reverse
    unless waiting.isEmpty do
      modify fun a => { a with waiting := [] }
      waiting.forM readCollection
      readWaiting fuel

/-- The parts of a document.  Every collection waits once, so there are no more rounds than nodes. -/
def parts? (g : Graph) (root : Nat) : Except DocumentFault (Array (Option Part)) := do
  let steps : Step Unit := do
    visit root
    readWaiting (g.size + 1)
  let (_, a) ← steps.run ⟨g, Array.replicate g.size none, []⟩
  return a.parts

end Assembly

end FormatLauncher.Yaml

/-
# The graph of a document

A document is a graph of texts, lists and mappings, every node with its tag.  A node is named by its
place in the order in which nodes start.  An alias is the place of the node that it stands for, so a
node can have its place below itself.
-/

import FormatLauncher.Yaml.Tag

namespace FormatLauncher.Yaml

/-- A key and its value, by their places. -/
abbrev Pairing := Nat × Nat

/-- What a node holds. -/
inductive Content
  | text (text : List Char)
  | list (items : List Nat)
  | map (entries : List Pairing)
  deriving Repr

/-- A node of a document. -/
structure Node where
  tag : Tag
  content : Content
  deriving Repr

/-- The nodes of a document, by their places. -/
abbrev Graph := Array Node

namespace Node

/-- A node that is not there: it stands for null. -/
def absent : Node := ⟨.null, .text []⟩

/-- The number of entries. -/
def entryCount (node : Node) : Nat :=
  match node.content with
  | .map entries => entries.length
  | _ => 0

end Node

namespace Graph

/-- The node at a place. -/
def nodeAt (g : Graph) (place : Nat) : Node := g[place]?.getD .absent

/-- The tag of the node at a place. -/
def tagAt (g : Graph) (place : Nat) : Tag := (g.nodeAt place).tag

/-- The entries of the mapping at a place; other nodes have none. -/
def entriesAt (g : Graph) (place : Nat) : List Pairing :=
  match (g.nodeAt place).content with
  | .map entries => entries
  | _ => []

/-- Give the node at a place another content. -/
def setContent (g : Graph) (place : Nat) (content : Content) : Graph :=
  g.modify place fun node => { node with content }

/-- Give the node at a place another tag. -/
def setTag (g : Graph) (place : Nat) (tag : Tag) : Graph :=
  g.modify place fun node => { node with tag }

/-- The text that a node stands for where a text is asked for: its own, or that of its first value
entry.  The fuel is used up only by a mapping that is its own value entry. -/
def textAt (g : Graph) : (fuel : Nat) → Nat → Except DocumentFault (List Char)
  | 0, _ => .error .endless
  | fuel + 1, place =>
    match (g.nodeAt place).content with
    | .text text => .ok text
    | .list _ => .error .malformed
    | .map entries =>
      match entries.find? fun (key, _) => g.tagAt key = .value with
      | some (_, value) => textAt g fuel value
      | none => .error .malformed

end Graph

end FormatLauncher.Yaml

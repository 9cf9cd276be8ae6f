/-
# From tokens to a graph

The structure of a document is read off its tokens from left to right, one token ahead.  Anchors are
remembered with the places of their nodes from the moment a node starts, so a node can stand inside
itself; no anchor is used twice.  A text holds at most one document.
-/

import FormatLauncher.Yaml.Graph
import FormatLauncher.Yaml.Token

namespace FormatLauncher.Yaml

/-- What is known while a document is read. -/
structure Grammar where
  tokens : List Token
  /-- The nodes so far. -/
  graph : Graph
  /-- The places of the nodes of the anchors. -/
  anchors : List (String × Nat)
  /-- What the handles of tags stand for. -/
  handles : List (String × String)

/-- Reading a part of a document. -/
abbrev Reading := StateT Grammar (Except DocumentFault)

namespace Grammar

/-- The text is not a document. -/
def refuse {α : Type} : Reading α := throw .malformed

/-- The next token; none at the end. -/
def peek : Reading (Option Token) := do
  match (← get).tokens with
  | .broken fault :: _ => throw fault
  | t :: _ => return some t
  | [] => return none

/-- Go past the next token. -/
def pass : Reading Unit := modify fun g => { g with tokens := g.tokens.tail }

/-- Go past the next token if it is a given one; the answer says whether it was. -/
def passIf (t : Token) : Reading Bool := do
  if (← peek) = some t then
    pass
    return true
  return false

/-- The next token is one of some tokens. -/
def nextIn (ts : List Token) : Reading Bool := do
  match ← peek with
  | some t => return ts.contains t
  | none => return false

/-- What stands before a node. -/
structure Labels where
  anchor : Option String
  /-- The full name of the tag. -/
  tag : Option String

/-- The anchor before a node, if there is one. -/
def readAnchor : Reading (Option String) := do
  if let some (.anchor name) ← peek then
    pass
    return some name
  return none

/-- The tag before a node, if there is one: its handle, if it has one, and the rest. -/
def readTag : Reading (Option (Option String × String)) := do
  if let some (.tag handle rest) ← peek then
    pass
    return some (handle, rest)
  return none

/-- The full name of a tag. -/
def fullName : Option String × String → Reading String
  | (none, rest) => return rest
  | (some handle, rest) => do
    match (← get).handles.lookup handle with
    | some start => return start ++ rest
    | none => refuse

/-- Anchor and tag before a node, in either order. -/
def readLabels : Reading Labels := do
  let anchor ← readAnchor
  let tag ← readTag
  let anchor ← if anchor.isNone && tag.isSome then readAnchor else pure anchor
  match tag with
  | none => return ⟨anchor, none⟩
  | some tag => return ⟨anchor, some (← fullName tag)⟩

/-- Start a node, under its anchor if it has one. -/
def start (anchor : Option String) (node : Node) : Reading Nat := do
  let place := (← get).graph.size
  modify fun g => { g with graph := g.graph.push node }
  if let some name := anchor then
    if ((← get).anchors.lookup name).isSome then
      refuse
    modify fun g => { g with anchors := (name, place) :: g.anchors }
  return place

/-- Give a node its content. -/
def fill (place : Nat) (content : Content) : Reading Nat := do
  modify fun g => { g with graph := g.graph.setContent place content }
  return place

/-- The place of a node that is not there. -/
def startAbsent : Reading Nat := start none .absent

/-- The place of the node that an alias names. -/
def aliased (name : String) : Reading Nat := do
  match (← get).anchors.lookup name with
  | some place => return place
  | none => refuse

/-- The tag name that leaves the choice to the spelling. -/
def bySpelling : String := "!"

/-- The tag of a collection. -/
def collectionTag (labels : Labels) (usual : Tag) : Tag :=
  match labels.tag with
  | none => usual
  | some name => if name = bySpelling then usual else .ofName name

/-- The tag of a text. -/
def scalarTag (labels : Labels) (text : List Char) (isPlain : Bool) : Tag :=
  match labels.tag with
  | none => if isPlain then .ofPlain text else .text
  | some name => if name = bySpelling then .ofPlain text else .ofName name

/-- The surroundings in which a node may stand. -/
inductive Position
  /-- Inside brackets or braces. -/
  | flow
  /-- In a block. -/
  | block
  /-- After a key or its colon, where a list need not be indented. -/
  | entry
  deriving DecidableEq

mutual

/-- A node. -/
def node : (fuel : Nat) → Position → Reading Nat
  | 0, _ => refuse
  | fuel + 1, position => do
    if let some (.alias name) ← peek then
      pass
      return ← aliased name
    let labels ← readLabels
    let inBlock := position ≠ .flow
    let isLabelled := labels.anchor.isSome || labels.tag.isSome
    let startList : Reading Nat := start labels.anchor ⟨collectionTag labels .list, .list []⟩
    let startMap : Reading Nat := start labels.anchor ⟨collectionTag labels .map, .map []⟩
    match ← peek with
    | some (.scalar text isPlain) =>
      pass
      let chars := text.toList
      start labels.anchor ⟨scalarTag labels chars isPlain, .text chars⟩
    | some .flowSequenceStart =>
      pass
      let place ← startList
      fill place (.list (← flowItems fuel true))
    | some .flowMappingStart =>
      pass
      let place ← startMap
      fill place (.map (← flowEntries fuel true))
    | next =>
      if next = some .blockEntry ∧ position = .entry then
        let place ← startList
        fill place (.list (← looseItems fuel))
      else if next = some .blockSequenceStart ∧ inBlock then
        pass
        let place ← startList
        fill place (.list (← blockItems fuel))
      else if next = some .blockMappingStart ∧ inBlock then
        pass
        let place ← startMap
        fill place (.map (← blockEntries fuel))
      else if isLabelled then
        start labels.anchor ⟨scalarTag labels [] true, .text []⟩
      else refuse

/-- A node, unless one of some tokens comes next. -/
def nodeUnless : (fuel : Nat) → Position → List Token → Reading Nat
  | 0, _, _ => refuse
  | fuel + 1, position, stops => do
    if ← nextIn stops then startAbsent else node fuel position

/-- The items of an indented list. -/
def blockItems : (fuel : Nat) → Reading (List Nat)
  | 0 => refuse
  | fuel + 1 => do
    if ← passIf .blockEntry then
      let item ← nodeUnless fuel .block [.blockEntry, .blockEnd]
      return item :: (← blockItems fuel)
    else if ← passIf .blockEnd then
      return []
    else refuse

/-- The items of a list that is not indented. -/
def looseItems : (fuel : Nat) → Reading (List Nat)
  | 0 => refuse
  | fuel + 1 => do
    if ← passIf .blockEntry then
      let item ← nodeUnless fuel .block [.blockEntry, .key, .value, .blockEnd]
      return item :: (← looseItems fuel)
    else return []

/-- The entries of an indented mapping. -/
def blockEntries : (fuel : Nat) → Reading (List Pairing)
  | 0 => refuse
  | fuel + 1 => do
    let stops : List Token := [.key, .value, .blockEnd]
    if ← passIf .blockEnd then
      return []
    else if ← passIf .key then
      let key ← nodeUnless fuel .entry stops
      let value ← if ← passIf .value then nodeUnless fuel .entry stops else startAbsent
      return (key, value) :: (← blockEntries fuel)
    else refuse

/-- The items of a list in brackets; an item may be a mapping of one entry. -/
def flowItems : (fuel : Nat) → (first : Bool) → Reading (List Nat)
  | 0, _ => refuse
  | fuel + 1, first => do
    if ← passIf .flowSequenceEnd then
      return []
    unless first do
      unless ← passIf .flowEntry do
        refuse
    if ← passIf .key then
      let pair ← start none ⟨.map, .map []⟩
      let key ← nodeUnless fuel .flow [.value, .flowEntry, .flowSequenceEnd]
      let value ←
        if ← passIf .value then nodeUnless fuel .flow [.flowEntry, .flowSequenceEnd]
        else startAbsent
      let item ← fill pair (.map [(key, value)])
      return item :: (← flowItems fuel false)
    else if ← passIf .flowSequenceEnd then
      return []
    else
      let item ← node fuel .flow
      return item :: (← flowItems fuel false)

/-- The entries of a mapping in braces. -/
def flowEntries : (fuel : Nat) → (first : Bool) → Reading (List Pairing)
  | 0, _ => refuse
  | fuel + 1, first => do
    if ← passIf .flowMappingEnd then
      return []
    unless first do
      unless ← passIf .flowEntry do
        refuse
    if ← passIf .key then
      let key ← nodeUnless fuel .flow [.value, .flowEntry, .flowMappingEnd]
      let value ←
        if ← passIf .value then nodeUnless fuel .flow [.flowEntry, .flowMappingEnd]
        else startAbsent
      return (key, value) :: (← flowEntries fuel false)
    else if ← passIf .flowMappingEnd then
      return []
    else
      let key ← node fuel .flow
      let value ← startAbsent
      return (key, value) :: (← flowEntries fuel false)

end

/-- The handles that need no directive. -/
def usualHandles : List (String × String) := [("!", "!"), ("!!", Tag.standard)]

/-- The directives before a document; none means that there is no directive left. -/
def directives : (fuel : Nat) → (versionSeen : Bool) → Reading Unit
  | 0, _ => refuse
  | fuel + 1, versionSeen => do
    match ← peek with
    | some (.directive (.version major)) =>
      if versionSeen || major ≠ 1 then refuse
      pass
      directives fuel true
    | some (.directive (.tag handle start)) =>
      if ((← get).handles.lookup handle).isSome then refuse
      pass
      modify fun g => { g with handles := g.handles ++ [(handle, start)] }
      directives fuel versionSeen
    | some (.directive .other) =>
      pass
      directives fuel versionSeen
    | _ => modify fun g => { g with handles := g.handles ++ usualHandles }

/-- Go past marks that end a document. -/
def passEnds : (fuel : Nat) → Reading Unit
  | 0 => pure ()
  | fuel + 1 => do
    if ← passIf .documentEnd then passEnds fuel

/-- The place of the root of the one document, if there is a document. -/
def document (fuel : Nat) : Reading (Option Nat) := do
  match ← peek with
  | none => return none
  | some next =>
    let isMarked := match next with
      | .directive _ | .documentStart => true
      | _ => false
    let root ←
      if isMarked then
        directives fuel false
        unless ← passIf .documentStart do
          refuse
        match ← peek with
        | none | some .documentStart | some .documentEnd | some (.directive _) => startAbsent
        | _ => node fuel .block
      else
        modify fun g => { g with handles := usualHandles }
        node fuel .block
    passEnds fuel
    if (← peek).isSome then
      refuse
    return some root

end Grammar

/-- The nodes of a document, and the place of its root; there may be no document. -/
def Graph.ofTokens (tokens : List Token) : Except DocumentFault (Graph × Option Nat) :=
  ((Grammar.document (4 * tokens.length + 8)).run ⟨tokens, #[], [], []⟩).map fun (root, g) =>
    (g.graph, root)

end FormatLauncher.Yaml

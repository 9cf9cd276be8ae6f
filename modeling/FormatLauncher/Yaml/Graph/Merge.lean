/-
# Merging mappings

An entry whose key is the merge key names a mapping, or a list of mappings, whose entries are taken
over.  The taken entries come before a mapping's own, those of the last mapping of a list first.
Merging happens in the graph itself and is done once: the entry with the merge key goes before what
it names is looked at, so a mapping that merges itself takes over what it has left.
-/

import FormatLauncher.Yaml.Graph

namespace FormatLauncher.Yaml.Graph

/-- What a merge key names, and the entries without it; none when no entry merges. -/
def takeMerge? (g : Graph) : List Pairing → Option (Nat × List Pairing)
  | [] => none
  | (key, value) :: rest =>
    if g.tagAt key = .merge then some (value, rest)
    else (takeMerge? g rest).map fun (source, rest) => (source, (key, value) :: rest)

/-- The number of entries of all mappings. -/
def entryCount (g : Graph) : Nat := g.foldl (fun count node => count + node.entryCount) 0

/-- A change of a graph that may be refused. -/
abbrev Change := StateT Graph (Except DocumentFault)

/-- The graph in which the value keys among some entries are texts. -/
def spellKeys (g : Graph) (entries : List Pairing) : Graph :=
  entries.foldl (fun g (key, _) => if g.tagAt key = .value then g.setTag key .text else g) g

/-- Put taken entries before the own entries of a mapping, and give them all.  From now on its value
keys are texts. -/
def settle (place : Nat) (taken : List Pairing) : Change (List Pairing) := do
  let own := (← get).entriesAt place
  let entries := taken ++ own
  modify fun g => (g.spellKeys own).setContent place (.map entries)
  return entries

/-- The entries that the merge keys of a mapping take over; the keys are gone afterwards.  Every
step removes an entry with a merge key and none adds one, so the fuel lasts when it exceeds the
number of entries. -/
def takeOver : (fuel : Nat) → Nat → Change (List Pairing)
  | 0, _ => throw .malformed
  | fuel + 1, place => do
    let g ← get
    match g.takeMerge? (g.entriesAt place) with
    | none => return []
    | some (source, own) =>
      set (g.setContent place (.map own))
      let merged (place : Nat) : Change (List Pairing) := do
        match ((← get).nodeAt place).content with
        | .map _ => settle place (← takeOver fuel place)
        | _ => throw .malformed
      let first ←
        match (g.nodeAt source).content with
        | .list items => do pure (← items.mapM merged).reverse.flatten
        | _ => merged source
      return first ++ (← takeOver fuel place)

/-- The entries of a mapping with those it takes over. -/
def mergedEntries (place : Nat) : Change (List Pairing) := do
  settle place (← takeOver ((← get).entryCount + 1) place)

end FormatLauncher.Yaml.Graph

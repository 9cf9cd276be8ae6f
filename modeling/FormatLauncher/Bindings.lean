/-
# Bindings of names to texts

Environments, named folders and substitution tables bind names to texts.  A name is bound at most
once.  Binding a name again keeps its place among the others, so the order is that of first binding.
-/

namespace FormatLauncher

/-- Names bound to texts, in the order of first binding. -/
abbrev Bindings := List (String × String)

namespace Bindings

/-- The text bound to a name. -/
def get? (bindings : Bindings) (name : String) : Option String := bindings.lookup name

/-- Bind a name. -/
def insert (bindings : Bindings) (name text : String) : Bindings :=
  match bindings with
  | [] => [(name, text)]
  | (other, old) :: rest =>
    if other = name then (name, text) :: rest else (other, old) :: insert rest name text

/-- Unbind a name. -/
def erase (bindings : Bindings) (name : String) : Bindings :=
  bindings.filter fun (other, _) => other ≠ name

/-- The bindings of a list of pairs, later pairs winning. -/
def ofPairs (pairs : List (String × String)) : Bindings :=
  pairs.foldl (fun bindings (name, text) => bindings.insert name text) []

/-- A nonempty text bound to a name. -/
def getNonempty? (bindings : Bindings) (name : String) : Option String :=
  (bindings.get? name).filter (· ≠ "")

end Bindings

end FormatLauncher

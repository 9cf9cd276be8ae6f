/-
# Sameness and order of values

Keys of a mapping are the same when they are equal as numbers, across the kinds of number, or equal
within their kind.  The order is partial: numbers compare with numbers, texts with texts, bytes with
bytes, days with days, times with times of the same sort, and tuples by their first difference.  A
list of values can be sorted only when every two that meet in sorting compare.
-/

import FormatLauncher.Value.Basic

namespace FormatLauncher.Value

/-- The number a value is, with truth as one and falsity as zero; not a number is no point. -/
def number? : Value → Option (Option ExtendedRat)
  | .bool b => some (some (.finite (if b then 1 else 0)))
  | .int n => some (some (.finite n))
  | .float x => some x.toExtended?
  | _ => none

/-- Lists of bytes in dictionary order. -/
def bytesLt : Text.Bytes → Text.Bytes → Bool
  | _, [] => false
  | [], _ :: _ => true
  | a :: as, b :: bs => decide (a < b) || (a == b && bytesLt as bs)

mutual

/-- The values are the same key. -/
def same : Value → Value → Bool
  | .null, .null => true
  | .text s, .text t => s == t
  | .bytes a, .bytes b => a == b
  | .date a, .date b => a == b
  | .time a, .time b => a.same b
  | .list as, .list bs => sameItems as bs
  | .tuple as, .tuple bs => sameItems as bs
  | a, b =>
    match a.number?, b.number? with
    | some (some p), some (some q) => p == q
    | _, _ => false

/-- The items are the same, one by one. -/
def sameItems : List Value → List Value → Bool
  | [], [] => true
  | a :: as, b :: bs => same a b && sameItems as bs
  | _, _ => false

end

mutual

/-- The first value comes before the second; none when they do not compare. -/
def lt? : Value → Value → Option Bool
  | .text s, .text t => some (decide (s < t))
  | .bytes a, .bytes b => some (bytesLt a b)
  | .date a, .date b => some (a.lt b)
  | .time a, .time b => a.lt? b
  | .list as, .list bs => itemsLt? as bs
  | .tuple as, .tuple bs => itemsLt? as bs
  | a, b =>
    match a.number?, b.number? with
    | some (some p), some (some q) => some (p.lt q)
    | some _, some _ => some false
    | _, _ => none

/-- Items compare by the first place where they differ, and a proper beginning comes first. -/
def itemsLt? : List Value → List Value → Option Bool
  | _, [] => some false
  | [], _ :: _ => some true
  | a :: as, b :: bs => if same a b then itemsLt? as bs else lt? a b

end

/-- Put a value into sorted values, behind those that do not come after it. -/
def insertSorted? (x : Value) : List Value → Option (List Value)
  | [] => some [x]
  | y :: rest =>
    match lt? x y with
    | none => none
    | some true => some (x :: y :: rest)
    | some false => (insertSorted? x rest).map (y :: ·)

/-- The values in order, when they compare. -/
def sort? (xs : List Value) : Option (List Value) :=
  xs.foldlM (fun sorted x => insertSorted? x sorted) []

end FormatLauncher.Value

namespace FormatLauncher.Entries

/-- The value under a key. -/
def find? (entries : Entries) (key : Value) : Option Value :=
  match entries with
  | [] => none
  | (k, v) :: rest => if k.same key then some v else find? rest key

/-- The value under a text key. -/
def get? (entries : Entries) (name : String) : Option Value := entries.find? (.text name)

/-- Put a value under a key: a key that is there keeps its place and its first spelling. -/
def insert (entries : Entries) (key value : Value) : Entries :=
  match entries with
  | [] => [(key, value)]
  | (k, v) :: rest => if k.same key then (k, value) :: rest else (k, v) :: insert rest key value

/-- The entries of a list of pairs, later pairs winning. -/
def ofPairs (pairs : List (Value × Value)) : Entries :=
  pairs.foldl (fun entries (k, v) => insert entries k v) []

end FormatLauncher.Entries

namespace FormatLauncher.Value

mutual

/-- The value in which an entry is put into the mapping of a mark, wherever that is spelled out. -/
def insertAt (mark : Nat) (key value : Value) : Value → Value
  | .circular m (.map entries) =>
    let entries := insertAtEntries mark key value entries
    .circular m (.map (if m = mark ∧ !entries.isEmpty then entries.insert key value else entries))
  | .circular m container => .circular m (insertAt mark key value container)
  | .list items => .list (insertAtItems mark key value items)
  | .tuple items => .tuple (insertAtItems mark key value items)
  | .map entries => .map (insertAtEntries mark key value entries)
  | v => v

/-- The same for items. -/
def insertAtItems (mark : Nat) (key value : Value) : List Value → List Value
  | [] => []
  | item :: rest => insertAt mark key value item :: insertAtItems mark key value rest

/-- The same for the values of entries. -/
def insertAtEntries (mark : Nat) (key value : Value) : List (Value × Value) → Entries
  | [] => []
  | (k, v) :: rest => (k, insertAt mark key value v) :: insertAtEntries mark key value rest

end

end FormatLauncher.Value

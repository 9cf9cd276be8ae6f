/-
# Configuration values

A configuration file holds values of many kinds, and settings take them as they come.  The type
below has one constructor for each kind; a mapping keeps its entries in the order in which their
keys first appeared, and a set its items.  A container can stand inside itself; such a value has no
end, so it carries a mark, is spelled out a few times on the way down, and is then left empty under
its mark.
-/

import FormatLauncher.Binary64
import FormatLauncher.Calendar
import FormatLauncher.Text.Utf8

namespace FormatLauncher

/-- A value of a configuration. -/
inductive Value
  | null
  | bool (b : Bool)
  | int (n : Int)
  | float (x : Binary64)
  | text (s : String)
  | bytes (b : Text.Bytes)
  | date (d : Date)
  | time (t : DateTime)
  | list (items : List Value)
  | tuple (items : List Value)
  | map (entries : List (Value × Value))
  | set (items : List Value)
  /-- A container that stands inside itself, wherever the same mark comes again. -/
  | circular (mark : Nat) (container : Value)
  deriving Repr

/-- The entries of a mapping. -/
abbrev Entries := List (Value × Value)

namespace Value

/-- The value without the mark of a container that stands inside itself. -/
def bare : Value → Value
  | .circular _ container => container.bare
  | v => v

/-- The name under which messages speak of the kind of a value. -/
def kindName : Value → String
  | .null => "NoneType"
  | .bool _ => "bool"
  | .int _ => "int"
  | .float _ => "float"
  | .text _ => "str"
  | .bytes _ => "bytes"
  | .date _ => "date"
  | .time _ => "datetime"
  | .list _ => "list"
  | .tuple _ => "tuple"
  | .map _ => "dict"
  | .set _ => "set"
  | .circular _ container => container.kindName

/-- The value counts as true: it is neither null, false, zero nor empty. -/
def isTruthy : Value → Bool
  | .null => false
  | .bool b => b
  | .int n => n ≠ 0
  | .float x => !x.isZero
  | .text s => s ≠ ""
  | .bytes b => b ≠ []
  | .date _ | .time _ => true
  | .list items | .tuple items | .set items => !items.isEmpty
  | .map entries => !entries.isEmpty
  | .circular _ container => container.isTruthy

/-- The value is null. -/
def isNull : Value → Bool
  | .null => true
  | _ => false

/-- The value is a text. -/
def isText : Value → Bool
  | .text _ => true
  | _ => false

end Value

end FormatLauncher

/-
# Tables of code points

A property of characters is kept as a table of inclusive ranges of code points, in ascending
order.  Membership is the plain search through the table; nothing else is assumed of it.
-/

namespace FormatLauncher.Text

/-- A table of inclusive ranges of code points. -/
abbrev CodeRanges := List (Nat × Nat)

namespace CodeRanges

/-- The code point of the character lies in one of the ranges. -/
def covers (table : CodeRanges) (c : Char) : Bool :=
  table.any fun range => range.1 ≤ c.toNat && c.toNat ≤ range.2

/-- Membership in a table is membership in one of its ranges. -/
theorem covers_iff (table : CodeRanges) (c : Char) :
    table.covers c = true ↔ ∃ range ∈ table, range.1 ≤ c.toNat ∧ c.toNat ≤ range.2 := by
  simp [covers, List.any_eq_true]

end CodeRanges

end FormatLauncher.Text

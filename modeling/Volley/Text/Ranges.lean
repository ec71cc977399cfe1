/-!
# Character classes as tables of ranges

A class of characters is written as a list of inclusive ranges of code points. Membership is the
one operation; the tables of this folder are data for it.
-/

namespace Volley.Text

/-- A character is in a table when its code point lies in one of the ranges. -/
def inRanges (table : List (Nat × Nat)) (c : Char) : Bool :=
  table.any fun range => decide (range.1 ≤ c.toNat) && decide (c.toNat ≤ range.2)

/-- Membership of a table, said of the ranges themselves. -/
theorem inRanges_iff {table : List (Nat × Nat)} {c : Char} :
    inRanges table c = true ↔ ∃ range ∈ table, range.1 ≤ c.toNat ∧ c.toNat ≤ range.2 := by
  simp [inRanges]

end Volley.Text

/-!
Membership in a table of code-point ranges.
-/

namespace Parley.Text

/-- First and last code point of a run, both included. -/
abbrev CodeRange := Nat × Nat

/-- Whether some run of the table holds the character. -/
def inRanges (table : List CodeRange) (c : Char) : Bool :=
  table.any fun r => r.1 ≤ c.toNat && c.toNat ≤ r.2

theorem inRanges_iff {table : List CodeRange} {c : Char} :
    inRanges table c = true ↔ ∃ r ∈ table, r.1 ≤ c.toNat ∧ c.toNat ≤ r.2 := by
  simp [inRanges]

end Parley.Text

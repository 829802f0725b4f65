/-
Character properties given as a table of code-point ranges.
-/

namespace TrackSearch
namespace Text

/-- A set of code points, as closed ranges in increasing order. -/
structure RangeTable where
  ranges : List (Nat × Nat)

/-- Whether some range of the table holds the character. -/
def RangeTable.contains (t : RangeTable) (c : Char) : Bool :=
  t.ranges.any fun r => decide (r.1 ≤ c.toNat) && decide (c.toNat ≤ r.2)

theorem RangeTable.contains_iff {t : RangeTable} {c : Char} :
    t.contains c = true ↔ ∃ r ∈ t.ranges, r.1 ≤ c.toNat ∧ c.toNat ≤ r.2 := by
  simp [RangeTable.contains]

end Text
end TrackSearch

/-! Sets of characters as ranges of their numbers. -/
namespace IndexPlanner.Text

/-- Whether the number lies in one of the ranges; both ends belong to a range. -/
def inRanges (ranges : List (Nat × Nat)) (n : Nat) : Bool :=
  ranges.any fun r => r.1 ≤ n && n ≤ r.2

end IndexPlanner.Text

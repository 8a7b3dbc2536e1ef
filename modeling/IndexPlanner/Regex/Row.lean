/-! How deep the parts of an expression are nested, counted while they are read. -/
namespace IndexPlanner.Regex

/-- Parts next to each other: how many, and the depth of the deepest. -/
structure Row where
  count : Nat := 0
  depth : Nat := 0
  deriving DecidableEq, Repr

namespace Row

/-- One part more. -/
def add (r : Row) (depth : Nat) : Row := ⟨r.count + 1, max r.depth depth⟩

/-- The depth of the row as one part: a single part stands for itself, several are nested. -/
def height (r : Row) : Nat := if r.count ≤ 1 then r.depth else r.depth + 1

end Row

end IndexPlanner.Regex

import IndexPlanner.Text.CaseFold.Table

/-! Simple case folding: one character for one character, so that a text keeps its length. Two
characters are the same letter in different case exactly when they fold to the same character. -/
namespace IndexPlanner.Text

/-- Whether the row says something about the character with this number. -/
def CaseFold.Row.covers (row : CaseFold.Row) (n : Nat) : Bool :=
  row.first ≤ n && n ≤ row.last && (n - row.first) % row.stride == 0

/-- The simple case folding of a character; most characters fold to themselves. -/
def foldCase (c : Char) : Char :=
  match CaseFold.rows.find? (·.covers c.toNat) with
  | some row => Char.ofNat ((c.toNat : Int) + row.shift).toNat
  | none => c

example : foldCase 'A' = 'a' ∧ foldCase 'z' = 'z' ∧ foldCase 'ſ' = 's' ∧ foldCase 'K' = 'k' := by
  decide +kernel
example : foldCase 'ẞ' = 'ß' ∧ foldCase 'Σ' = foldCase 'ς' ∧ foldCase 'İ' = 'İ' := by
  decide +kernel

end IndexPlanner.Text

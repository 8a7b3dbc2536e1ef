/-! Blank characters and trimming. A character is blank when it has the White_Space property,
so the zero-width space and the byte order mark are not. -/
namespace IndexPlanner.Text

/-- The characters with the White_Space property. -/
def isBlank (c : Char) : Bool :=
  let n := c.toNat
  (9 ≤ n && n ≤ 13) || n == 0x20 || n == 0x85 || n == 0xA0 || n == 0x1680 ||
    (0x2000 ≤ n && n ≤ 0x200A) || n == 0x2028 || n == 0x2029 || n == 0x202F || n == 0x205F ||
    n == 0x3000

/-- The characters left when the blank ones at both ends are removed. -/
def trimChars (cs : List Char) : List Char :=
  ((cs.dropWhile isBlank).reverse.dropWhile isBlank).reverse

/-- Nothing but blanks: the texts of which trimming leaves nothing. -/
def isBlankText (s : String) : Bool := s.toList.all isBlank

@[simp] theorem trimChars_nil : trimChars [] = [] := rfl

example : trimChars " \ta b\u3000".toList = ['a', ' ', 'b'] := by decide
example : isBlankText "\u2003\u2028" = true ∧ isBlankText "\u200b" = false := by decide

end IndexPlanner.Text

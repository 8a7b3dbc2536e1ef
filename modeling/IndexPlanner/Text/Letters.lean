import IndexPlanner.Text.Letters.Table
import IndexPlanner.Text.Ranges

/-! Letters and numerals of all scripts. -/
namespace IndexPlanner.Text

/-- Whether the character is alphabetic: a letter, a numeral made of letters, or a mark that
stands for a letter. -/
def isAlphabetic (c : Char) : Bool := inRanges Letters.alphabetic c.toNat

/-- Whether the character is a digit or another numeral. -/
def isNumeric (c : Char) : Bool := inRanges Letters.numeric c.toNat

/-- Whether the character is alphabetic or a numeral. -/
def isAlphanumeric (c : Char) : Bool := isAlphabetic c || isNumeric c

example : isAlphanumeric 'ß' = true ∧ isAlphanumeric 'Ⅷ' = true ∧ isAlphanumeric '½' = true := by
  decide +kernel
example : isAlphabetic '\u0345' = true ∧ isAlphanumeric '\u0301' = false ∧
    isAlphanumeric '€' = false := by
  decide +kernel

end IndexPlanner.Text

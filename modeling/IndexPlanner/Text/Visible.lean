import IndexPlanner.Text.Ranges
import IndexPlanner.Text.Visible.Table

/-! Quoted texts in which every character shows. What does not show on its own, and what attaches
to the character before it, is written by number between braces. -/
namespace IndexPlanner.Text

/-- Whether the character shows on its own. -/
def isVisible (c : Char) : Bool :=
  let n := c.toNat
  if n < 0x7F then 0x20 ≤ n else !inRanges Visible.unseen n

/-- Lower-case hexadecimal digits, without leading zeros. -/
def hexDigits (n : Nat) : List Char := Nat.toDigits 16 n

/-- How one character is written inside a quoted text. -/
def showChar (c : Char) : List Char :=
  if c = '"' then ['\\', '"']
  else if c = '\\' then ['\\', '\\']
  else if c = '\n' then ['\\', 'n']
  else if c = '\r' then ['\\', 'r']
  else if c = '\t' then ['\\', 't']
  else if c = '\x00' then ['\\', '0']
  else if isVisible c then [c]
  else ['\\', 'u', '\x7b'] ++ hexDigits c.toNat ++ ['\x7d']

/-- The text between quotes, with every character visible. -/
def quoteVisible (s : String) : String :=
  String.ofList ('"' :: s.toList.flatMap showChar ++ ['"'])

example : quoteVisible "a\t\u00a0'" = "\"a\\t\\u\x7ba0\x7d'\"" := by decide +kernel
example : quoteVisible "\u1fff\u2000\u2010" = "\"\\u\x7b1fff\x7d\\u\x7b2000\x7d\u2010\"" := by
  decide +kernel

end IndexPlanner.Text

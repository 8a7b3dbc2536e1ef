import IndexPlanner.Json.Literal
import IndexPlanner.Json.Value
import IndexPlanner.Text.Pieces

/-! Keys of a map as values. Keys are texts; next to a number they count as the number that they
spell, if they spell one. -/
namespace IndexPlanner.MapKey

open Json (Literal Value)
open Text

/-- The sign before a row of characters: whether it is a minus, and what follows. -/
def splitSign : List Char → Bool × List Char
  | '+' :: cs => (false, cs)
  | '-' :: cs => (true, cs)
  | cs => (false, cs)

/-- The integer of a signed word that the characters spell. -/
def integer? (cs : List Char) : Option Int :=
  let (negative, digits) := splitSign cs
  if digits = [] ∨ digits.any (!·.isDigit) then none
  else
    let n : Int := natOfDigits digits
    let i := if negative then -n else n
    if -0x8000000000000000 ≤ i ∧ i < 0x8000000000000000 then some i else none

/-- The words for what is no finite number. -/
def infinite : List String := ["inf", "infinity", "nan"]

/-- A decimal number: digits with a point anywhere or nowhere, and an exponent or none. What is
beyond the finite numbers, by its size or in words, is null. -/
def decimal? (cs : List Char) : Option Value :=
  let (negative, body) := splitSign cs
  if infinite.contains (asciiLower (.ofList body)) then some .null
  else
    let whole := body.takeWhile Char.isDigit
    let rest := body.dropWhile Char.isDigit
    let (fraction, rest) := match rest with
      | '.' :: rest => (rest.takeWhile Char.isDigit, rest.dropWhile Char.isDigit)
      | rest => ([], rest)
    if whole = [] ∧ fraction = [] then none
    else (Literal.tail? rest).map fun exponent =>
      match Binary64.ofDecimal? negative (natOfDigits (whole ++ fraction))
          (exponent.getD 0 - fraction.length) with
      | some x => .number (.real x)
      | none => .null

/-- The value of a key next to an operand. -/
def value (key : String) (operand : Option Value) : Value :=
  if operand.any Value.isNumber then
    match integer? key.toList with
    | some i => .ofInt i
    | none => (decimal? key.toList).getD (.string key)
  else .string key

end IndexPlanner.MapKey

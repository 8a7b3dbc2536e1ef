import IndexPlanner.Json.Number
import IndexPlanner.Text.Digits

/-! Number literals: an optional minus sign, digits without a leading zero, then a fraction and an
exponent, each of which may be left out. -/
namespace IndexPlanner.Json

open Text

/-- A literal by its parts. -/
structure Literal where
  negative : Bool
  whole : List Char
  fraction : Option (List Char)
  exponent : Option Int
  deriving Repr

namespace Literal

/-- The characters that a literal is made of. -/
def isPart (c : Char) : Bool :=
  c.isDigit || c == '-' || c == '+' || c == '.' || c == 'e' || c == 'E'

/-- The number that a row of digits spells, if it is one. -/
def digits? (cs : List Char) : Option Nat :=
  if cs ≠ [] ∧ cs.all Char.isDigit then some (natOfDigits cs) else none

/-- Digits that spell an exponent, with an optional sign before them. -/
def exponent? : List Char → Option Int
  | '+' :: cs => (digits? cs).map Int.ofNat
  | '-' :: cs => (digits? cs).map fun n => -(n : Int)
  | cs => (digits? cs).map Int.ofNat

/-- What may follow the digits before the point and the fraction: nothing, or an exponent. -/
def tail? : List Char → Option (Option Int)
  | [] => some none
  | c :: cs => if c = 'e' ∨ c = 'E' then (exponent? cs).map some else none

/-- The literal without its sign. -/
def unsigned? (negative : Bool) (cs : List Char) : Option Literal :=
  let whole := cs.takeWhile Char.isDigit
  if whole = [] ∨ (whole.head? = some '0' ∧ whole.length ≠ 1) then none
  else match cs.dropWhile Char.isDigit with
    | '.' :: rest =>
      let fraction := rest.takeWhile Char.isDigit
      if fraction = [] then none
      else (tail? (rest.dropWhile Char.isDigit)).map (⟨negative, whole, some fraction, ·⟩)
    | rest => (tail? rest).map (⟨negative, whole, none, ·⟩)

/-- Reads the whole row of characters as a literal. -/
def parse? : List Char → Option Literal
  | '-' :: cs => unsigned? true cs
  | cs => unsigned? false cs

/-- The floating-point number nearest to the literal. A reader that rounds more than once may come to
a neighbour of it when the literal has many digits or a large exponent. -/
def real? (l : Literal) : Option Number :=
  let fraction := l.fraction.getD []
  (Binary64.ofDecimal? l.negative (natOfDigits (l.whole ++ fraction))
    (l.exponent.getD 0 - fraction.length)).map .real

/-- The number that the literal spells, if it is in range. A literal of digits alone is an integer
when a 64-bit word holds it; minus zero is a floating-point number. -/
def number? (l : Literal) : Option Number :=
  let n : Int := natOfDigits l.whole
  let i := if l.negative then -n else n
  if l.fraction.isNone && l.exponent.isNone && !(l.negative && n == 0) then
    if h : -0x8000000000000000 ≤ i ∧ i < 0x10000000000000000 then some (.int i h) else l.real?
  else l.real?

example : ((parse? "-0.5e1".toList).bind number?) = some (.real (.ofInt (-5))) := by decide +kernel
example : (parse? "01".toList).isNone ∧ (parse? "1e+".toList).isNone := by decide

end Literal

end IndexPlanner.Json

import IndexPlanner.Binary64.Basic

/-! The shortest decimal that reads back as a given magnitude. On the grid of decimals with one
digit, then two, and so on, the two neighbours of the value are tried; the first grid on which one
of them reads back gives the answer, and of two the nearer. -/
namespace IndexPlanner

/-- A positive decimal fraction, `digits * 10 ^ exponent`. -/
structure Decimal where
  digits : Nat
  exponent : Int
  deriving DecidableEq, Repr

namespace Decimal

/-- The rank of the binary number nearest to the decimal. -/
def rank (d : Decimal) : Nat :=
  Binary64.nearestRank (d.digits * Nat.pow 10 d.exponent.toNat) (Nat.pow 10 (-d.exponent).toNat)

/-- The same decimal without zeros at the end of its digits; `fuel` bounds their number. -/
def stripZeros : Nat → Decimal → Decimal
  | 0, d => d
  | fuel + 1, d =>
    if d.digits != 0 && d.digits % 10 == 0 then stripZeros fuel ⟨d.digits / 10, d.exponent + 1⟩
    else d

/-- The number of digits before the decimal point, negative for zeros after it. -/
def pointPlace (d : Decimal) : Int := Binary64.digitCount d.digits + d.exponent

end Decimal

namespace Binary64

/-- The power of ten just above a positive magnitude given in multiples of `2 ^ -1074`. -/
def pointPlace (units : Nat) : Int :=
  if Nat.pow 2 1074 ≤ units then digitCount (units / Nat.pow 2 1074)
  else 1 - (digitCount ((Nat.pow 2 1074 - 1) / units) : Int)

/-- A neighbour of the rank's value among the decimals with `count` digits, if one reads back: the
nearer one if both do, and the even one of two that are equally near. -/
def neighbour? (rank count : Nat) : Option Decimal :=
  let units := unitsOfRank rank
  let exponent := pointPlace units - count
  let num := units * Nat.pow 10 (-exponent).toNat
  let den := Nat.pow 2 1074 * Nat.pow 10 exponent.toNat
  let below : Decimal := ⟨num / den, exponent⟩
  let above : Decimal := ⟨num / den + 1, exponent⟩
  if below.rank = rank then
    some (if above.rank = rank then ⟨divRound num den, exponent⟩ else below)
  else if above.rank = rank then some above
  else none

/-- The exact value of the rank, with as many digits as it takes. -/
def exactDecimal (rank : Nat) : Decimal := ⟨unitsOfRank rank * Nat.pow 5 1074, -1074⟩

/-- The decimal with the fewest digits that reads back as the rank; the exact value would answer
if none with at most seventeen digits did. -/
def shortest (rank : Nat) : Decimal :=
  let counts := (List.range 17).map (· + 1)
  (counts.findSome? (neighbour? rank)).getD (exactDecimal rank) |>.stripZeros 800

example : shortest (ofInt 30).rank = ⟨3, 1⟩ := by decide +kernel
example : shortest 1 = ⟨5, -324⟩ := by decide +kernel

end Binary64

end IndexPlanner

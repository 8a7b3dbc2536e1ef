/-! Finite binary floating-point numbers of 64 bits. A number is its sign and its rank, the count
of magnitudes below it, so that larger ranks are larger magnitudes and order needs no arithmetic. -/
namespace IndexPlanner

/-- The number of finite magnitudes. -/
def Binary64.ranks : Nat := 2047 * Nat.pow 2 52

/-- A finite number: a sign, and the place of its magnitude among all magnitudes. -/
structure Binary64 where
  negative : Bool
  rank : Nat
  rank_lt : rank < Binary64.ranks
  deriving DecidableEq, Repr

namespace Binary64

instance : Inhabited Binary64 := ⟨⟨false, 0, by decide⟩⟩

/-- The place of the number among all numbers; the two zeros share theirs. -/
def position (x : Binary64) : Int := if x.negative then -x.rank else x.rank

/-- The magnitude of a rank in multiples of the least positive one, `2 ^ -1074`. -/
def unitsOfRank (rank : Nat) : Nat :=
  let exponent := rank / Nat.pow 2 52
  if exponent = 0 then rank
  else (Nat.pow 2 52 + rank % Nat.pow 2 52) * Nat.pow 2 (exponent - 1)

/-- The magnitude in multiples of `2 ^ -1074`. -/
def units (x : Binary64) : Nat := unitsOfRank x.rank

/-- The exact value in multiples of `2 ^ -1074`. -/
def scaled (x : Binary64) : Int := if x.negative then -x.units else x.units

/-- The quotient rounded to the nearest natural number, a half to the even one. -/
def divRound (num den : Nat) : Nat :=
  let q := num / den
  let twice := 2 * (num % den)
  if den < twice || (twice == den && q % 2 == 1) then q + 1 else q

/-- The rank nearest to the positive fraction, a tie going to the even rank. It is not bounded:
a fraction too large for a finite number gets a rank that no number has. -/
def nearestRank (num den : Nat) : Nat :=
  let scaled := num * Nat.pow 2 1074
  let shift := (scaled / den).log2 - 52
  shift * Nat.pow 2 52 + divRound scaled (den * Nat.pow 2 shift)

/-- The number nearest to an integer; what is too large becomes the largest number. -/
def ofInt (i : Int) : Binary64 :=
  { negative := decide (i < 0)
    rank := min (nearestRank i.natAbs 1) (ranks - 1)
    rank_lt := Nat.lt_of_le_of_lt (Nat.min_le_right _ _) (by decide) }

/-- The number of decimal digits; zero has one. -/
def digitCount (n : Nat) : Nat := (Nat.toDigits 10 n).length

/-- The number nearest to `digits * 10 ^ exponent`, or nothing when that is beyond the largest
number. Far outside the range of the ranks the answer is known from the number of digits. -/
def ofDecimal? (negative : Bool) (digits : Nat) (exponent : Int) : Option Binary64 :=
  let order := digitCount digits + exponent
  if digits = 0 || order < -330 then some ⟨negative, 0, by decide⟩
  else if 310 < order then none
  else
    let rank := nearestRank (digits * Nat.pow 10 exponent.toNat) (Nat.pow 10 (-exponent).toNat)
    if h : rank < ranks then some ⟨negative, rank, h⟩ else none

/-- The machine's number with the same value. -/
def toFloat (x : Binary64) : Float :=
  Float.ofBits (UInt64.ofNat (x.rank + if x.negative then 0x8000000000000000 else 0))

@[simp] theorem unitsOfRank_zero : unitsOfRank 0 = 0 := by decide

example : (ofInt 1).units = Nat.pow 2 1074 := by decide +kernel
example : (ofInt 0x20000000000001).position = (ofInt 0x20000000000000).position := by decide +kernel
example : (ofDecimal? false 5 (-324)).map rank = some 1 := by decide +kernel
example : ofDecimal? true 18 307 = none := by decide +kernel

end Binary64

end IndexPlanner

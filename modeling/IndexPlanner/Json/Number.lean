import IndexPlanner.Binary64.Shortest

/-! Numbers of a document. An integer literal that fits a 64-bit word, signed or unsigned, stays an
integer; every other literal is a binary floating-point number. The two kinds are never the same
number, though they are ordered together. -/
namespace IndexPlanner.Json

/-- An integer of a 64-bit word, or a floating-point number. -/
inductive Number where
  | int (value : Int) (fits : -0x8000000000000000 ≤ value ∧ value < 0x10000000000000000)
  | real (value : Binary64)
  deriving DecidableEq, Repr

namespace Number

instance : Inhabited Number := ⟨.int 0 (by decide)⟩

/-- The integer as a number; beyond the words it is the nearest floating-point number. -/
def ofInt (i : Int) : Number :=
  if h : -0x8000000000000000 ≤ i ∧ i < 0x10000000000000000 then .int i h else .real (.ofInt i)

/-- The value of an integer that fits a signed word. -/
def int64? : Number → Option Int
  | int i _ => if i < 0x8000000000000000 then some i else none
  | real _ => none

/-- The value of an integer that fits an unsigned word. -/
def word64? : Number → Option Nat
  | int i _ => if 0 ≤ i then some i.toNat else none
  | real _ => none

/-- The nearest floating-point number. -/
def toBinary64 : Number → Binary64
  | int i _ => .ofInt i
  | real x => x

/-- Two integers of signed words are ordered as integers, any other two numbers as floating-point
numbers. -/
def compare (a b : Number) : Ordering :=
  match a.int64?, b.int64? with
  | some i, some j => Ord.compare i j
  | _, _ => Ord.compare a.toBinary64.position b.toBinary64.position

/-- The same number of the same kind; the two zeros of the floating-point numbers are the same. -/
def same : Number → Number → Bool
  | int i _, int j _ => i == j
  | real x, real y => x.position == y.position
  | _, _ => false

example : (ofInt 1).compare (.real (.ofInt 1)) = .eq := by decide +kernel
example : (ofInt 1).same (.real (.ofInt 1)) = false := by decide +kernel

end Number

end IndexPlanner.Json

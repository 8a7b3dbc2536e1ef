import IndexPlanner.Json.Printer
import IndexPlanner.Json.Value

/-! Tests of a single value. Numbers are ordered as numbers and strings by their characters; no
other values are ordered, and none of one kind with one of another. Null passes no test. -/
namespace IndexPlanner

open Json (Value)

namespace Json.Value

/-- The order of two values that have one. -/
def order? : Value → Value → Option Ordering
  | number a, number b => some (a.compare b)
  | string a, string b => some (compare a b)
  | _, _ => none

/-- The same in order, or the same in structure. -/
def equals (a b : Value) : Bool := order? a b == some .eq || a.same b

/-- Above the other value. -/
def isAbove (a b : Value) : Bool := order? a b == some .gt

/-- Below the other value. -/
def isBelow (a b : Value) : Bool := order? a b == some .lt

/-- Level with the other value in their order. -/
def isLevel (a b : Value) : Bool := order? a b == some .eq

end Json.Value

/-- A test with its operands; both ends of a range pass. -/
inductive ValueTest where
  | equal (operand : Value)
  | greater (operand : Value)
  | atLeast (operand : Value)
  | less (operand : Value)
  | atMost (operand : Value)
  | between (low high : Value)
  | oneOf (candidates : List Value)
  deriving Repr

namespace ValueTest

/-- What a value other than null has to satisfy. -/
def holds : ValueTest → Value → Bool
  | equal v, actual => actual.equals v
  | greater v, actual => actual.isAbove v
  | atLeast v, actual => actual.isAbove v || actual.isLevel v
  | less v, actual => actual.isBelow v
  | atMost v, actual => actual.isBelow v || actual.isLevel v
  | between low high, actual =>
    (actual.isAbove low || actual.isLevel low) && (actual.isBelow high || actual.isLevel high)
  | oneOf vs, actual => vs.any actual.equals

/-- Whether the value passes the test. -/
def accepts (t : ValueTest) (actual : Value) : Bool := !actual.isNull && t.holds actual

/-- The first operand. -/
def operand? : ValueTest → Option Value
  | equal v => some v
  | greater v => some v
  | atLeast v => some v
  | less v => some v
  | atMost v => some v
  | between low _ => some low
  | oneOf vs => vs.head?

/-- The test as a text. -/
def text : ValueTest → String
  | equal v => "== " ++ v.text
  | greater v => "> " ++ v.text
  | atLeast v => ">= " ++ v.text
  | less v => "< " ++ v.text
  | atMost v => "<= " ++ v.text
  | between low high => "BETWEEN " ++ low.text ++ " AND " ++ high.text
  | oneOf vs => "IN " ++ (Value.array vs).text

end ValueTest

end IndexPlanner

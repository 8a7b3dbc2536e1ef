import IndexPlanner.Text.Digits

/-! Failures that a store or a cluster reports. -/
namespace IndexPlanner

/-- A failure with its circumstances; the time of a timeout is in milliseconds. -/
inductive StoreError where
  | unreachable (node reason : String)
  | timeout (milliseconds : Nat)
  | server (code : Int) (message : String)
  | cursorClosed
  deriving DecidableEq, Repr

/-- A number of thousandths as a decimal without zeros at its end. -/
def thousandths (n : Nat) : String :=
  let whole := Text.digitsOf (n / 1000)
  let rest := ((Text.digitsOf (1000 + n % 1000)).drop 1).reverse.dropWhile (· == '0') |>.reverse
  String.ofList (if rest.isEmpty then whole else whole ++ '.' :: rest)

/-- A time in the largest unit of which it has at least one. -/
def durationText (milliseconds : Nat) : String :=
  if milliseconds = 0 then "0ns"
  else if milliseconds < 1000 then String.ofList (Text.digitsOf milliseconds) ++ "ms"
  else thousandths milliseconds ++ "s"

namespace StoreError

/-- The text of the error. -/
def message : StoreError → String
  | unreachable node reason => s!"node {node} unreachable: {reason}"
  | timeout ms => s!"request timed out after {durationText ms}"
  | server code text => s!"server error {Text.intText code}: {text}"
  | cursorClosed => "cursor already closed"

/-- The name by which callers tell errors apart. -/
def code : StoreError → String
  | unreachable .. => "AERO_STORE_UNREACHABLE"
  | timeout _ => "AERO_STORE_TIMEOUT"
  | server .. => "AERO_STORE_SERVER_ERROR"
  | cursorClosed => "AERO_STORE_CURSOR_CLOSED"

end StoreError

example : durationText 1500 = "1.5s" ∧ durationText 60000 = "60s" := by decide

end IndexPlanner

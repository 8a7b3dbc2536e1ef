import IndexPlanner.Qualifier.Basic
import IndexPlanner.Region
import IndexPlanner.Text.Visible

/-! Filters that an index can answer: equality with an integer or a string, a range of integers,
and the points of a region. -/
namespace IndexPlanner

open Json (Value Members)

/-- What an index is asked for. Both ends of a range belong to it; a region is kept as text. -/
inductive IndexFilter where
  | equalInt (bin : String) (value : Int)
  | equalText (bin value : String)
  | range (bin : String) (low high : Int)
  | within (bin region : String)
  deriving DecidableEq, Repr

namespace IndexFilter

/-- The least integer that an index holds. -/
def minInt : Int := -0x8000000000000000

/-- The greatest integer that an index holds. -/
def maxInt : Int := 0x7fffffffffffffff

/-- The bin that the filter reads. -/
def bin : IndexFilter → String
  | equalInt bin _ => bin
  | equalText bin _ => bin
  | range bin _ _ => bin
  | within bin _ => bin

/-- The equality filter for an operand. -/
def ofEqual? (bin : String) : Value → Option IndexFilter
  | .number n => n.int64?.map (equalInt bin)
  | .string s => some (equalText bin s)
  | _ => none

/-- The range above an operand, if there is anything above it. -/
def ofGreater? (bin : String) (operand : Value) : Option IndexFilter :=
  operand.int64?.bind fun i => if i < maxInt then some (range bin (i + 1) maxInt) else none

/-- The range from an operand on. -/
def ofAtLeast? (bin : String) (operand : Value) : Option IndexFilter :=
  operand.int64?.map fun i => range bin i maxInt

/-- The range below an operand, if there is anything below it. -/
def ofLess? (bin : String) (operand : Value) : Option IndexFilter :=
  operand.int64?.bind fun i => if minInt < i then some (range bin minInt (i - 1)) else none

/-- The range up to an operand. -/
def ofAtMost? (bin : String) (operand : Value) : Option IndexFilter :=
  operand.int64?.map fun i => range bin minInt i

/-- The range between two operands that are in order. -/
def ofBetween? (bin : String) (operand : Value) (upper : Option Value) : Option IndexFilter := do
  let low ← operand.int64?
  let high ← upper.bind Value.int64?
  if low ≤ high then some (range bin low high) else none

/-- The text of a region operand. -/
def regionText : Value → String
  | .string t => t
  | v => v.text

/-- The filter for a region operand. -/
def ofRegion? (bin : String) (operand : Value) : Option IndexFilter :=
  (Region.ofValue? operand).map fun _ => within bin (regionText operand)

/-- The filter that says the same as the leaf, as far as an index can: not for strings compared
without regard to case, and not for operands that an index cannot hold. -/
def ofLeaf? (l : Leaf) : Option IndexFilter :=
  if l.isCaseInsensitive then none
  else match l.operation with
    | .compare .equal => ofEqual? l.field l.operand
    | .compare .greater => ofGreater? l.field l.operand
    | .compare .atLeast => ofAtLeast? l.field l.operand
    | .compare .less => ofLess? l.field l.operand
    | .compare .atMost => ofAtMost? l.field l.operand
    | .compare .between => ofBetween? l.field l.operand l.upper
    | .geoWithin => ofRegion? l.field l.operand
    | _ => none

/-- A leaf with a filter has an operation that filters can express. -/
theorem isIndexable_of_ofLeaf? {l : Leaf} {f : IndexFilter} (h : ofLeaf? l = some f) :
    l.operation.isIndexable = true := by
  unfold ofLeaf? at h
  split at h
  · simp at h
  · split at h <;> simp_all [Operation.isIndexable]

/-- Whether a record with these bins answers the filter. -/
def accepts (f : IndexFilter) (bins : Members) : Bool :=
  match f with
  | equalInt bin value => (bins.get? bin).bind Value.int64? == some value
  | equalText bin value => (bins.get? bin).bind Value.string? == some value
  | range bin low high =>
    match (bins.get? bin).bind Value.int64? with
    | some i => decide (low ≤ i ∧ i ≤ high)
    | none => false
  | within bin region =>
    match bins.get? bin, Region.ofText? region with
    | some v, some r => r.contains v
    | _, _ => false

/-- The filter as a text. -/
def text : IndexFilter → String
  | equalInt bin value => "equal(" ++ bin ++ ", " ++ Text.intText value ++ ")"
  | equalText bin value => "equal(" ++ bin ++ ", " ++ Text.quoteVisible value ++ ")"
  | range bin low high =>
    "range(" ++ bin ++ ", " ++ Text.intText low ++ ", " ++ Text.intText high ++ ")"
  | within bin region => "geo_within(" ++ bin ++ ", " ++ region ++ ")"

end IndexFilter

end IndexPlanner

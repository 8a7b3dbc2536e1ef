import IndexPlanner.Plan.Error
import IndexPlanner.Predicate.MapKey
import IndexPlanner.Predicate.Pattern
import IndexPlanner.Predicate.ValueTest
import IndexPlanner.Region

/-! Predicates on the bins of a record: qualifiers whose operands have been checked. A bin that is
missing or null satisfies nothing. -/
namespace IndexPlanner

open Json (Value Members)

/-- A condition that every record can be tried against. -/
inductive Predicate where
  | group (junction : Junction) (clauses : List Predicate)
  | compare (bin : String) (test : ValueTest)
  | pattern (bin : String) (pattern : Pattern)
  | search (bin : String) (shape : Shape) (test : ValueTest)
  | within (bin : String) (region : Region)
  deriving Repr

/-- The part of a collection as it is written. -/
def Shape.name : Shape → String
  | list => "list"
  | mapKeys => "mapkeys"
  | mapValues => "mapvalues"

namespace ValueTest

/-- Whether some element of the part of the collection passes; the keys of a map are read as the
test's first operand asks. -/
def acceptsSome (t : ValueTest) : Shape → Value → Bool
  | .list, .array items => items.any t.accepts
  | .mapKeys, .object members =>
    (Members.keys members).any fun k => t.accepts (MapKey.value k t.operand?)
  | .mapValues, .object members => (Members.values members).any t.accepts
  | _, _ => false

end ValueTest

namespace Predicate

open CompileError (unsupported)

/-- An operand of an ordered comparison. -/
def ordered (l : Leaf) (v : Value) : Except CompileError Value :=
  if v.isNumber || v.isString then .ok v
  else .error (unsupported l.operation l.field .notOrdered)

/-- The second operand of a range. -/
def upper (l : Leaf) : Except CompileError Value :=
  match l.upper with
  | some v => .ok v
  | none => .error (.malformed (.arity l.operation l.field 1))

/-- The test of a comparison. -/
def valueTest (l : Leaf) : Comparison → Except CompileError ValueTest
  | .equal => .ok (.equal l.operand)
  | .greater => (ordered l l.operand).map .greater
  | .atLeast => (ordered l l.operand).map .atLeast
  | .less => (ordered l l.operand).map .less
  | .atMost => (ordered l l.operand).map .atMost
  | .between => do
    let low ← ordered l l.operand
    let high ← upper l
    let high ← ordered l high
    return .between low high
  | .oneOf =>
    match l.operand with
    | .array vs => .ok (.oneOf vs)
    | _ => .error (unsupported l.operation l.field .notList)

/-- The test on each element of a collection. -/
def elementTest (l : Leaf) : Membership → Except CompileError ValueTest
  | .contains => .ok (.equal l.operand)
  | .between => (upper l).map (.between l.operand)

/-- The pattern of an operation on strings. -/
def ofText (l : Leaf) (place : Place) : Except CompileError Predicate :=
  match l.operand with
  | .string s => .ok (pattern l.field ⟨place, s, l.ignoreCase⟩)
  | _ => .error (unsupported l.operation l.field .notText)

/-- The place that an operation on strings asks for. -/
def placeOf : TextTest → Place
  | .startsWith => .atStart
  | .endsWith => .atEnd
  | .containing => .anywhere

/-- The predicate of a leaf; an equality without regard to case is a pattern for the whole. -/
def ofLeaf (l : Leaf) : Except CompileError Predicate :=
  match l.operation with
  | .compare c =>
    if c = .equal ∧ l.isCaseInsensitive then ofText l .whole
    else (valueTest l c).map (compare l.field)
  | .matchText t => ofText l (placeOf t)
  | .search shape membership => (elementTest l membership).map (search l.field shape)
  | .geoWithin =>
    match Region.ofValue? l.operand with
    | some r => .ok (within l.field r)
    | none => .error (unsupported l.operation l.field .notRegion)
  | .group j => .error (.malformed (.groupOnField (.group j) l.field))

mutual
/-- The predicate of a tree; the first operand that does not suit is the error. -/
def ofQualifier : Qualifier → Except CompileError Predicate
  | .key _ => .error .keyNotAlone
  | .leaf l => ofLeaf l
  | .group j qs => (ofQualifiers qs).map (group j)

def ofQualifiers : List Qualifier → Except CompileError (List Predicate)
  | [] => .ok []
  | q :: qs => do
    let p ← ofQualifier q
    let ps ← ofQualifiers qs
    return p :: ps
end

/-- The predicate of qualifiers that all have to hold, if there are any. -/
def conjunction (qs : List Qualifier) : Except CompileError (Option Predicate) :=
  (ofQualifiers qs).map fun
    | [] => none
    | [p] => some p
    | ps => some (group .and ps)

mutual
/-- Whether a record with these bins satisfies the predicate. -/
def accepts (bins : Members) : Predicate → Bool
  | group .and ps => allAccept bins ps
  | group .or ps => someAccepts bins ps
  | compare bin test => (bins.get? bin).any test.accepts
  | pattern bin p => ((bins.get? bin).bind Value.string?).any p.accepts
  | search bin shape test => (bins.get? bin).any (test.acceptsSome shape)
  | within bin region => (bins.get? bin).any region.contains

def allAccept (bins : Members) : List Predicate → Bool
  | [] => true
  | p :: ps => accepts bins p && allAccept bins ps

def someAccepts (bins : Members) : List Predicate → Bool
  | [] => false
  | p :: ps => accepts bins p || someAccepts bins ps
end

/-- How the clauses of a group are joined. -/
def junction? : Predicate → Option Junction
  | group j _ => some j
  | _ => none

mutual
/-- The predicate as a text. -/
def text : Predicate → String
  | group j ps => j.enclose (texts ps)
  | compare bin test => bin ++ " " ++ test.text
  | pattern bin p => bin ++ " =~ /" ++ p.written ++ "/"
  | search bin shape test => "ANY " ++ shape.name ++ "(" ++ bin ++ ") " ++ test.text
  | within bin _ => bin ++ " WITHIN region"

def texts : List Predicate → List String
  | [] => []
  | p :: ps => text p :: texts ps
end

end Predicate

end IndexPlanner

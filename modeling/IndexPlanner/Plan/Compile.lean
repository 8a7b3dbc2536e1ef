import IndexPlanner.Plan.Pushdown
import IndexPlanner.Predicate.Basic
import IndexPlanner.Store.Record

/-! Plans of queries: the fetch of one record by its key, or a query of the store whose records are
tried against a predicate. -/
namespace IndexPlanner

open Json (Members)

/-- A query of the store. The filter is the caller's or that of the pushed leaf; the predicate
stands for the residual qualifiers. -/
structure Statement where
  scope : Scope
  filter : Option IndexFilter := none
  pushed : Option Leaf := none
  residual : List Qualifier := []
  predicate : Option Predicate := none
  deriving Repr

namespace Statement

/-- What the store is asked for. -/
def request (s : Statement) : ScanRequest := ⟨s.scope, s.filter⟩

/-- Without a filter the store has to go through all its records. -/
def isFullScan (s : Statement) : Bool := s.filter.isNone

/-- Whether a record with these bins satisfies the predicate. -/
def accepts (s : Statement) (bins : Members) : Bool := s.predicate.all (·.accepts bins)

end Statement

/-- How the records of a query are reached. -/
inductive Plan where
  | lookup (key : Key)
  | scan (statement : Statement)
  deriving Repr

/-- The kinds of plans. -/
inductive AccessPath where
  | pointLookup
  | indexQuery
  | fullScan
  deriving DecidableEq, Repr

/-- The name of a kind. -/
def AccessPath.name : AccessPath → String
  | pointLookup => "POINT_LOOKUP"
  | indexQuery => "INDEX_QUERY"
  | fullScan => "FULL_SCAN"

namespace Plan

/-- The kind of the plan. -/
def accessPath : Plan → AccessPath
  | lookup _ => .pointLookup
  | scan s => if s.isFullScan then .fullScan else .indexQuery

/-- The statement before its predicate is known: the caller's filter leaves all qualifiers over,
otherwise an index takes one leaf if it can. -/
def outline (s : Snapshot) (scope : Scope) (filter : Option IndexFilter) (qs : List Qualifier) :
    Statement :=
  match filter with
  | some f => { scope, filter := some f, residual := qs }
  | none =>
    match Pushdown.find? s scope qs with
    | some p => { scope, filter := some p.filter, pushed := some p.leaf, residual := p.residual }
    | none => { scope, residual := qs }

/-- The plan of a query without conditions on keys. -/
def compileScan (s : Snapshot) (scope : Scope) (filter : Option IndexFilter)
    (qs : List Qualifier) : Except CompileError Plan := do
  let statement := outline s scope filter qs
  let predicate ← Predicate.conjunction statement.residual
  return scan { statement with predicate }

/-- The plan of a query. All qualifiers are checked first; a condition on the key is a plan by
itself and must not stand among others. -/
def compile (s : Snapshot) (scope : Scope) (filter : Option IndexFilter) (qs : List Qualifier) :
    Except CompileError Plan :=
  match Qualifier.validateAll qs with
  | .error e => .error (.malformed e)
  | .ok () =>
    match qs with
    | [.key v] => .ok (lookup ⟨scope.space, scope.set, v⟩)
    | qs =>
      if Qualifier.anyContainsKey qs then .error .keyNotAlone
      else if qs.isEmpty && filter.isNone then .error (.emptyStatement scope)
      else compileScan s scope filter qs

end Plan

end IndexPlanner

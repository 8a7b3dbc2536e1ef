import IndexPlanner.Engine.Iterator
import IndexPlanner.Plan.Compile

/-! Queries run against a store. A query that no index helps with is refused unless scans of whole
sets are allowed, and then the store is not asked at all. -/
namespace IndexPlanner

/-- Why a query has no results. -/
inductive QueryError where
  | unsafeFullScan (scope : Scope)
  | compile (error : CompileError)
  | store (error : StoreError)
  deriving DecidableEq, Repr

namespace QueryError

/-- The text of the error. -/
def message : QueryError → String
  | unsafeFullScan scope => s!"query on {scope.text} needs a full scan and scans are disabled"
  | compile e => e.message
  | store e => e.message

/-- The name by which callers tell errors apart. -/
def code : QueryError → String
  | unsafeFullScan _ => "AERO_QUERY_UNSAFE_FULL_SCAN"
  | compile e => e.code
  | store e => e.code

end QueryError

/-- What a query depends on beside the store: the known indexes, and whether scans are allowed. -/
structure Engine where
  snapshot : Snapshot := .empty
  scansEnabled : Bool := false

namespace Engine

/-- Refuses a scan that is not allowed. -/
def guard (e : Engine) : Plan → Except QueryError Plan
  | .lookup key => .ok (.lookup key)
  | .scan s =>
    if s.isFullScan && !e.scansEnabled then .error (.unsafeFullScan s.scope) else .ok (.scan s)

/-- The plan of a query that may be run. -/
def plan (e : Engine) (scope : Scope) (filter : Option IndexFilter) (qs : List Qualifier) :
    Except QueryError Plan :=
  match Plan.compile e.snapshot scope filter qs with
  | .error err => .error (.compile err)
  | .ok p => e.guard p

variable {σ : Type}

/-- Runs a plan: one fetch or one query. -/
def run (store : RecordStore σ) (plan : Plan) (s : σ) : Except QueryError ResultIterator × σ :=
  match plan with
  | .lookup key => (store.get key s).map (fun
    | .ok r => .ok (.ofFetch r)
    | .error e => .error (.store e)) id
  | .scan statement => (store.query statement.request s).map (fun
    | .ok cursor => .ok (.ofCursor cursor statement.predicate)
    | .error e => .error (.store e)) id

/-- Runs a plan if there is one. -/
def runChecked (store : RecordStore σ) (plan : Except QueryError Plan) (s : σ) :
    Except QueryError ResultIterator × σ :=
  match plan with
  | .error e => (.error e, s)
  | .ok p => run store p s

/-- The results of a query. -/
def select (e : Engine) (store : RecordStore σ) (scope : Scope) (filter : Option IndexFilter)
    (qs : List Qualifier) (s : σ) : Except QueryError ResultIterator × σ :=
  runChecked store (e.plan scope filter qs) s

/-- All records of a scope. -/
def scanAll (e : Engine) (store : RecordStore σ) (scope : Scope) (s : σ) :
    Except QueryError ResultIterator × σ :=
  runChecked store (e.guard (.scan { scope })) s

end Engine

end IndexPlanner

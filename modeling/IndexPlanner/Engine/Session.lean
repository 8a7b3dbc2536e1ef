import IndexPlanner.Engine.Explanation

/-! Several queries at once on one store. Open results are known by name; whoever opens results
under a name that is in use drops the earlier ones, and dropping results closes them. -/
namespace IndexPlanner

/-- A store, an engine on it, and the open results by name. -/
structure Session (σ : Type) where
  store : σ
  engine : Engine := {}
  live : List (String × ResultIterator) := []

namespace Session

variable {σ : Type}

/-- The results of the given name. -/
def results? (s : Session σ) (name : String) : Option ResultIterator :=
  (s.live.find? (·.1 == name)).map (·.2)

/-- The open results without those of the given name. -/
def others (s : Session σ) (name : String) : List (String × ResultIterator) :=
  s.live.filter (·.1 != name)

/-- Puts results under a name. -/
def keep (s : Session σ) (name : String) (results : ResultIterator) : Session σ :=
  { s with live := (name, results) :: s.others name }

/-- The store learns what has been done to a cursor. -/
def note (ops : RecordStore σ) (s : Session σ) (calls : List CursorCall) : Session σ :=
  { s with store := calls.foldl (fun store call => ops.noted call store) s.store }

/-- Drops the results of the given name; says whether there were any. -/
def drop (ops : RecordStore σ) (s : Session σ) (name : String) : Bool × Session σ :=
  match s.results? name with
  | some results => (true, note ops { s with live := s.others name } results.close.2)
  | none => (false, s)

/-- Puts new results under a name if the query has some; the earlier ones are dropped then. -/
def openWith (ops : RecordStore σ) (s : Session σ) (name : String)
    (answer : Except QueryError ResultIterator × σ) :
    Except QueryError ResultIterator × Session σ :=
  let s := { s with store := answer.2 }
  match answer.1 with
  | .ok results => (.ok results, (drop ops s name).2.keep name results)
  | .error e => (.error e, s)

/-- Runs a query and keeps its results under a name. -/
def select (ops : RecordStore σ) (s : Session σ) (name : String) (scope : Scope)
    (filter : Option IndexFilter) (qs : List Qualifier) :
    Except QueryError ResultIterator × Session σ :=
  openWith ops s name (s.engine.select ops scope filter qs s.store)

/-- Opens all records of a scope under a name. -/
def scanAll (ops : RecordStore σ) (s : Session σ) (name : String) (scope : Scope) :
    Except QueryError ResultIterator × Session σ :=
  openWith ops s name (s.engine.scanAll ops scope s.store)

/-- The next record of the results of the given name. -/
def next (ops : RecordStore σ) (s : Session σ) (name : String) : Option (Advance × Session σ) :=
  (s.results? name).map fun results =>
    let a := results.next
    (a, note ops (s.keep name a.results) a.calls)

/-- All records that the results of the given name still have. -/
def drain (ops : RecordStore σ) (s : Session σ) (name : String) :
    Option (List (Except StoreError Record) × ResultIterator × Session σ) :=
  (s.results? name).map fun results =>
    let (items, last, calls) := results.drain
    (items, last, note ops (s.keep name last) calls)

/-- Closes the results of the given name; they stay known. -/
def close (ops : RecordStore σ) (s : Session σ) (name : String) :
    Option (ResultIterator × Session σ) :=
  (s.results? name).map fun results =>
    let (last, calls) := results.close
    (last, note ops (s.keep name last) calls)

end Session

end IndexPlanner

import IndexPlanner.Store.Cursor

/-! A store in memory. Records stay in the order in which their keys were first put. -/
namespace IndexPlanner

/-- The records, the number of cursors that are not closed, and the number of queries. -/
structure MemoryStore where
  records : List Record := []
  openCursors : Int := 0
  queriesIssued : Nat := 0
  deriving Inhabited

namespace MemoryStore

/-- Replaces the record of the same key, or adds the record at the end. -/
def putInto (r : Record) : List Record → List Record
  | [] => [r]
  | old :: rest =>
    if old.key.same r.key then { r with generation := old.generation + 1 } :: rest
    else old :: putInto r rest

/-- Puts a record; a record of the same key is replaced and counted as written once more. -/
def put (s : MemoryStore) (r : Record) : MemoryStore := { s with records := putInto r s.records }

/-- The record with the key. -/
def find? (s : MemoryStore) (key : Key) : Option Record := s.records.find? (·.key.same key)

/-- The records that a query asks for, in order. -/
def matching (s : MemoryStore) (q : ScanRequest) : List Record := s.records.filter q.selects

/-- Answers a query with the records as they are now. -/
def query (s : MemoryStore) (q : ScanRequest) : Cursor × MemoryStore :=
  (.ofRecords (s.matching q),
    { s with openCursors := s.openCursors + 1, queriesIssued := s.queriesIssued + 1 })

/-- A cursor has been closed. -/
def release (s : MemoryStore) : MemoryStore := { s with openCursors := s.openCursors - 1 }

/-- Closes a cursor; closing it once more does nothing. -/
def close (s : MemoryStore) (c : Cursor) : Cursor × MemoryStore :=
  if c.closed then (c, s) else (c.close, s.release)

/-- The store in memory never fails. -/
def recordStore : RecordStore MemoryStore where
  get key s := (.ok (s.find? key), s)
  query q s := ((s.query q).map .ok id)
  noted
    | .pull, s => s
    | .close, s => s.release

end MemoryStore

end IndexPlanner

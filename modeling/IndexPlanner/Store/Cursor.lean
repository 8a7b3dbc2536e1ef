import IndexPlanner.Store.Record

/-! Cursors: the answers of a store to a query, one for each pull. -/
namespace IndexPlanner

/-- The answer to one pull. -/
inductive Pull where
  | record (r : Record)
  | failure (e : StoreError)
  | finished
  deriving Repr

/-- The answers still to come; when they are used up, the cursor is finished. -/
structure Cursor where
  answers : List Pull
  closed : Bool := false
  deriving Repr

/-- What is done to a cursor. -/
inductive CursorCall where
  | pull
  | close
  deriving DecidableEq, Repr

namespace Cursor

/-- A cursor over records. -/
def ofRecords (records : List Record) : Cursor := { answers := records.map .record }

/-- The answers that pulls get; after `close` each of them is a failure. -/
def pending (c : Cursor) : List Pull := if c.closed then [.failure .cursorClosed] else c.answers

/-- One pull. -/
def next (c : Cursor) : Pull × Cursor :=
  if c.closed then (.failure .cursorClosed, c)
  else match c.answers with
    | [] => (.finished, c)
    | p :: rest => (p, { c with answers := rest })

/-- The cursor after it has been closed. -/
def close (c : Cursor) : Cursor := { c with closed := true }

end Cursor

/-- A store with a state of its own: it fetches records, answers queries, and learns what is done
to its cursors. -/
structure RecordStore (σ : Type) where
  get : Key → σ → Except StoreError (Option Record) × σ
  query : ScanRequest → σ → Except StoreError Cursor × σ
  noted : CursorCall → σ → σ

end IndexPlanner

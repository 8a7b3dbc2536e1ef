import IndexPlanner.Predicate.Basic
import IndexPlanner.Store.Cursor

/-! The results of a query, one record at a time. Records of a cursor are tried against a predicate
as they are pulled. The cursor is closed as soon as nothing more is wanted of it: at its end, at
its first failure, or when the caller closes the results. -/
namespace IndexPlanner

/-- Where the next record comes from. -/
inductive Feed where
  | single (record : Option Record)
  | stream (cursor : Cursor) (predicate : Option Predicate)
  | closed
  deriving Repr

/-- The results of a query, with the number of records that the predicate has turned away. -/
structure ResultIterator where
  feed : Feed
  skipped : Nat := 0
  deriving Repr

/-- What a cursor gives when records are pulled until one is wanted: the last answer, the answers
after it, and the number of records turned away before it. -/
structure Sought where
  answer : Pull
  rest : List Pull
  skipped : Nat
  deriving Repr

/-- Pulls until a record is wanted, or until no record comes. -/
def Cursor.seek (wanted : Record → Bool) : List Pull → Sought
  | [] => ⟨.finished, [], 0⟩
  | .record r :: rest =>
    if wanted r then ⟨.record r, rest, 0⟩
    else
      let s := seek wanted rest
      { s with skipped := s.skipped + 1 }
  | answer :: rest => ⟨answer, rest, 0⟩

/-- One step of the results: the record or failure if there is one, the results after it, and what
was done to the cursor. -/
structure Advance where
  item : Option (Except StoreError Record)
  results : ResultIterator
  calls : List CursorCall
  deriving Repr

namespace ResultIterator

/-- The result of a fetch. -/
def ofFetch (record : Option Record) : ResultIterator := { feed := .single record }

/-- The results of a cursor that satisfy the predicate. -/
def ofCursor (cursor : Cursor) (predicate : Option Predicate) : ResultIterator :=
  { feed := .stream cursor predicate }

/-- Nothing more comes. -/
def isClosed (it : ResultIterator) : Bool :=
  match it.feed with
  | .closed => true
  | _ => false

/-- The results when their cursor is done with. -/
def ended (it : ResultIterator) (skipped : Nat) : ResultIterator :=
  { feed := .closed, skipped := it.skipped + skipped }

/-- The next record. -/
def next (it : ResultIterator) : Advance :=
  match it.feed with
  | .closed => ⟨none, it, []⟩
  | .single r => ⟨r.map .ok, { it with feed := .closed }, []⟩
  | .stream cursor predicate =>
    let s := Cursor.seek (fun r => predicate.all (·.accepts r.bins)) cursor.pending
    let pulls := List.replicate (s.skipped + 1) .pull
    match s.answer with
    | .record r =>
      ⟨some (.ok r),
        { feed := .stream { cursor with answers := s.rest } predicate,
          skipped := it.skipped + s.skipped },
        pulls⟩
    | .failure e => ⟨some (.error e), it.ended s.skipped, pulls ++ [.close]⟩
    | .finished => ⟨none, it.ended s.skipped, pulls ++ [.close]⟩

/-- Gives up the results. -/
def close (it : ResultIterator) : ResultIterator × List CursorCall :=
  match it.feed with
  | .stream _ _ => ({ it with feed := .closed }, [.close])
  | _ => ({ it with feed := .closed }, [])

/-- An upper bound for the number of items that may come. -/
def bound (it : ResultIterator) : Nat :=
  match it.feed with
  | .closed => 0
  | .single _ => 1
  | .stream cursor _ => cursor.pending.length

/-- All items until the results end; `fuel` bounds their number. -/
def drainUpTo : Nat → ResultIterator →
    List (Except StoreError Record) × ResultIterator × List CursorCall
  | 0, it => ([], it, [])
  | fuel + 1, it =>
    let a := it.next
    match a.item with
    | none => ([], a.results, a.calls)
    | some item =>
      let (items, last, calls) := drainUpTo fuel a.results
      (item :: items, last, a.calls ++ calls)

/-- All items until the results end. -/
def drain (it : ResultIterator) :
    List (Except StoreError Record) × ResultIterator × List CursorCall :=
  drainUpTo (it.bound + 1) it

end ResultIterator

end IndexPlanner

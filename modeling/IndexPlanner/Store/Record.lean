import IndexPlanner.Filter.Basic
import IndexPlanner.Scope
import IndexPlanner.Store.Error

/-! Records and what is asked of a store that holds them. -/
namespace IndexPlanner

open Json (Document Value Members)

/-- The identity of a record. A key without a set belongs to no set. -/
structure Key where
  space : String
  set : Option String
  userKey : Value
  deriving Repr

namespace Key

/-- The same key; user keys are the same when they are the same value. -/
def same (a b : Key) : Bool := a.space == b.space && a.set == b.set && a.userKey.same b.userKey

/-- The key as a text. -/
def text (k : Key) : String := k.space ++ ":" ++ k.set.getD "" ++ ":" ++ k.userKey.text

/-- Whether records of the key are in the scope. -/
def isIn (k : Key) (scope : Scope) : Bool :=
  k.space == scope.space && (scope.set.isNone || k.set == scope.set)

/-- The key as a document. -/
def document (k : Key) : Document :=
  .object [(some "namespace", .string k.space), (some "set", .ofValue (.ofText? k.set)),
    (some "user_key", .ofValue k.userKey)]

end Key

/-- A record: its bins, and how often it has been written. The count has no upper end; a counter of
32 bits shows the same for as long as fewer than `2 ^ 32` records are put under the key. -/
structure Record where
  key : Key
  bins : Members
  generation : Nat := 1
  deriving Repr

/-- The record as a document. -/
def Record.document (r : Record) : Document :=
  .object [(some "key", r.key.document), (some "bins", .object (Document.ofMembers r.bins)),
    (some "generation", .ofValue (.ofInt r.generation))]

/-- A query: a scope, and an index filter or none. -/
structure ScanRequest where
  scope : Scope
  filter : Option IndexFilter
  deriving Repr

/-- Whether the query asks for the record. -/
def ScanRequest.selects (q : ScanRequest) (r : Record) : Bool :=
  r.key.isIn q.scope && q.filter.all (·.accepts r.bins)

end IndexPlanner

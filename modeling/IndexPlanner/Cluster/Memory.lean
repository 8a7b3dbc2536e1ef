import IndexPlanner.Cluster.Refresh

/-! A cluster in memory, and the indexes known of it. All its nodes describe the same indexes. An
index is created or dropped in the cluster first; what is known is refreshed after that. -/
namespace IndexPlanner

/-- The nodes, those of them that do not answer, and the indexes in the order of their creation. -/
structure MemoryCluster where
  nodes : List String := []
  down : List String := []
  indexes : List Index := []
  deriving Repr

/-- An index to be created. -/
structure IndexSpec where
  space : String
  set : Option String := none
  name : String
  bin : String
  type : IndexType
  shape : IndexShape := .plain
  deriving DecidableEq, Repr

/-- The index as the cluster describes it. -/
def IndexSpec.toIndex (s : IndexSpec) : Index :=
  { name := s.name, space := s.space, set := s.set, bin := s.bin, type := some s.type,
    shape := some s.shape }

namespace MemoryCluster

/-- The server's number for an index that exists. -/
def alreadyExists : Int := 200

/-- The server's number for an index that does not exist. -/
def notFound : Int := 201

/-- Adds an index, whatever there is. -/
def add (c : MemoryCluster) (i : Index) : MemoryCluster := { c with indexes := c.indexes ++ [i] }

/-- Says whether a node is down from now on. -/
def setDown (c : MemoryCluster) (node : String) (down : Bool) : MemoryCluster :=
  let others := c.down.filter (· ≠ node)
  { c with down := if down then node :: others else others }

/-- The answer of a node. -/
def answer (c : MemoryCluster) : Answers := fun node =>
  if c.down.contains node then .error (.unreachable node "connection refused")
  else .ok (Snapshot.ofList c.indexes).info

/-- Creates an index unless the namespace has one of that name. -/
def create (c : MemoryCluster) (spec : IndexSpec) : Except StoreError MemoryCluster :=
  if c.indexes.any fun i => i.space == spec.space && i.name == spec.name then
    .error (.server alreadyExists s!"index '{spec.name}' already exists")
  else .ok (c.add spec.toIndex)

/-- Drops the indexes of a set that have the name. -/
def dropIndex (c : MemoryCluster) (scope : Scope) (name : String) :
    Except StoreError MemoryCluster :=
  let isMeant (i : Index) : Bool := i.space == scope.space && i.set == scope.set && i.name == name
  if c.indexes.any isMeant then .ok { c with indexes := c.indexes.filter (!isMeant ·) }
  else .error (.server notFound s!"index '{name}' not found")

end MemoryCluster

/-- Why an operation on indexes has failed: the cluster refused it, or its answer to the refresh
after it cannot be read. -/
inductive IndexError where
  | info (error : InfoError)
  | refused (error : StoreError)
  deriving DecidableEq, Repr

namespace IndexError

/-- The text of the error. -/
def message : IndexError → String
  | info e => e.message
  | refused e => s!"index DDL failed: {e.message}"

/-- The name by which callers tell errors apart. -/
def code : IndexError → String
  | info e => e.code
  | refused _ => "AERO_INDEX_DDL_FAILED"

/-- Whether an answer could not be read. -/
def isInfo : IndexError → Bool
  | info _ => true
  | refused _ => false

end IndexError

/-- A cluster and what is known of its indexes. -/
structure ManagedCluster where
  cluster : MemoryCluster
  known : Snapshot := .empty

/-- What an operation has come to, and the nodes asked in it. -/
structure Managed where
  outcome : Except IndexError RefreshOutcome
  asked : List String
  state : ManagedCluster

namespace ManagedCluster

/-- Refreshes what is known, asking the nodes in the given order. -/
def refresh (m : ManagedCluster) (order : List String) : Managed :=
  let r := m.known.refresh m.cluster.answer order
  ⟨r.outcome.mapError .info, r.asked, { m with known := r.known }⟩

/-- Goes on with a changed cluster; a refusal changes nothing and asks nobody. -/
def change (m : ManagedCluster) (changed : Except StoreError MemoryCluster)
    (order : List String) : Managed :=
  match changed with
  | .ok cluster => { m with cluster }.refresh order
  | .error e => ⟨.error (.refused e), [], m⟩

/-- Creates an index and refreshes what is known. -/
def create (m : ManagedCluster) (spec : IndexSpec) (order : List String) : Managed :=
  m.change (m.cluster.create spec) order

/-- Drops an index and refreshes what is known. -/
def dropIndex (m : ManagedCluster) (scope : Scope) (name : String) (order : List String) :
    Managed :=
  m.change (m.cluster.dropIndex scope name) order

/-- Whether an index of that name is known. -/
def indexExists (m : ManagedCluster) (space name : String) : Bool :=
  m.known.containsName space name

end ManagedCluster

end IndexPlanner

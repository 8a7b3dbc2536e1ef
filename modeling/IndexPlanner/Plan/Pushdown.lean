import IndexPlanner.Filter.Basic
import IndexPlanner.Index.Snapshot

/-! The one condition of a query that an index answers. Conditions are tried in their order: a leaf
at the top, or a leaf that is a child of an AND at the top. What is left of the query when that
leaf is taken out has to be tried against each record. -/
namespace IndexPlanner

/-- A leaf that an index answers, the filter that asks for it, and the qualifiers left over. -/
structure Pushdown where
  leaf : Leaf
  filter : IndexFilter
  residual : List Qualifier
  deriving Repr

namespace Pushdown

/-- The same leaf with further qualifiers left over before the others. -/
def after (q : Qualifier) (p : Pushdown) : Pushdown := { p with residual := q :: p.residual }

/-- The filter for a leaf, if a filter can express it and an index covers its bin. -/
def filter? (s : Snapshot) (scope : Scope) (l : Leaf) : Option IndexFilter :=
  (IndexFilter.ofLeaf? l).filter fun _ => s.hasIndexFor scope l.field

/-- Takes out the first leaf that an index answers, looking at the leaves of the list only. -/
def ofChildren? (s : Snapshot) (scope : Scope) : List Qualifier → Option Pushdown
  | [] => none
  | .leaf l :: rest =>
    match filter? s scope l with
    | some f => some ⟨l, f, rest⟩
    | none => (ofChildren? s scope rest).map (after (.leaf l))
  | q :: rest => (ofChildren? s scope rest).map (after q)

/-- An AND whose children are what is left: nothing of none, the child itself of one. -/
def rejoin : List Qualifier → List Qualifier
  | [] => []
  | [q] => [q]
  | qs => [.group .and qs]

/-- Takes a leaf out of a single qualifier. -/
def ofQualifier? (s : Snapshot) (scope : Scope) : Qualifier → Option Pushdown
  | .leaf l => (filter? s scope l).map (⟨l, ·, []⟩)
  | .group .and qs => (ofChildren? s scope qs).map fun p => { p with residual := rejoin p.residual }
  | _ => none

/-- Takes the first leaf that an index answers out of the qualifiers of a query. -/
def find? (s : Snapshot) (scope : Scope) : List Qualifier → Option Pushdown
  | [] => none
  | q :: rest =>
    match ofQualifier? s scope q with
    | some p => some { p with residual := p.residual ++ rest }
    | none => (find? s scope rest).map (after q)

end Pushdown

end IndexPlanner

import IndexPlanner.Qualifier.Basic

/-! The leaves and the nodes of qualifiers, from left to right. -/
namespace IndexPlanner.Qualifier

mutual
/-- The leaves of a tree. -/
def leaves : Qualifier → List Leaf
  | key _ => []
  | leaf l => [l]
  | group _ qs => leavesOf qs

/-- The leaves of trees, one tree after the other. -/
def leavesOf : List Qualifier → List Leaf
  | [] => []
  | q :: qs => leaves q ++ leavesOf qs
end

theorem leavesOf_eq_flatMap (qs : List Qualifier) : leavesOf qs = qs.flatMap leaves := by
  induction qs with
  | nil => rw [leavesOf, List.flatMap_nil]
  | cons q qs ih => rw [leavesOf, ih, List.flatMap_cons]

@[simp] theorem leavesOf_append (qs rs : List Qualifier) :
    leavesOf (qs ++ rs) = leavesOf qs ++ leavesOf rs := by
  simp only [leavesOf_eq_flatMap, List.flatMap_append]

mutual
/-- The nodes of a tree, a group before its children. -/
def nodes : Qualifier → List Qualifier
  | key v => [key v]
  | leaf l => [leaf l]
  | group j qs => group j qs :: nodesOf qs

/-- The nodes of trees, one tree after the other. -/
def nodesOf : List Qualifier → List Qualifier
  | [] => []
  | q :: qs => nodes q ++ nodesOf qs
end

end IndexPlanner.Qualifier

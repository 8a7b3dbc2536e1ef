import IndexPlanner.Predicate.Basic
import IndexPlanner.Proofs.Outcome
import IndexPlanner.Proofs.Qualifier.Leaves

/-! The faults of qualifiers, each by the node that has it. Checking a list of trees finds the first
faulty node, and making a predicate of it finds the first leaf whose operand does not suit. -/
namespace IndexPlanner

open Json (Value)

namespace Leaf

/-- Numbers and strings are the operands of ordered comparisons. -/
def isOrdered (v : Value) : Bool := v.isNumber || v.isString

/-- Why the operands of a leaf do not suit its operation. -/
def unsuitable? (l : Leaf) : Option Unsuitable :=
  match l.operation with
  | .compare .greater | .compare .atLeast | .compare .less | .compare .atMost =>
    if isOrdered l.operand then none else some .notOrdered
  | .compare .between =>
    if isOrdered l.operand && l.upper.all isOrdered then none else some .notOrdered
  | .compare .oneOf => if l.operand.array?.isSome then none else some .notList
  | .matchText _ => if l.operand.isString then none else some .notText
  | .geoWithin => if (Region.ofValue? l.operand).isSome then none else some .notRegion
  | .compare .equal | .search _ _ | .group _ => none

/-- The error of a leaf whose operands do not suit. -/
def refusal? (l : Leaf) : Option CompileError :=
  l.unsuitable?.map (.unsupported l.operation l.field)

theorem validate_eq_ok_iff {l : Leaf} : l.validate = .ok () ↔
    Text.isBlankText l.field = false ∧ l.operation.isGroup = false ∧
      l.operandCount = l.operation.arity := by
  unfold validate
  cases Text.isBlankText l.field with
  | true => simp
  | false =>
    cases l.operation.isGroup with
    | true => simp
    | false =>
      by_cases hcount : l.operandCount = l.operation.arity <;> simp [hcount]

theorem exists_upper_of_arity {l : Leaf} (h : l.validate = .ok ())
    (harity : l.operation.arity = 2) : ∃ v, l.upper = some v := by
  have hcount := (validate_eq_ok_iff.1 h).2.2
  rw [harity, operandCount] at hcount
  split at hcount
  · next hupper => exact Option.isSome_iff_exists.1 hupper
  · omega

end Leaf

namespace Predicate

variable {l : Leaf}

theorem failure?_ordered (l : Leaf) (v : Value) : failure? (ordered l v) =
    if Leaf.isOrdered v then none else some (.unsupported l.operation l.field .notOrdered) := by
  rw [ordered, Leaf.isOrdered]
  split <;> rfl

theorem failure?_ofText (l : Leaf) (place : Place) : failure? (ofText l place) =
    if l.operand.isString then none else some (.unsupported l.operation l.field .notText) := by
  rw [ofText]
  cases l.operand <;> rfl

theorem failure?_between {v : Value} (hv : l.upper = some v) : failure? (valueTest l .between) =
    if Leaf.isOrdered l.operand && Leaf.isOrdered v then none
    else some (.unsupported l.operation l.field .notOrdered) := by
  have htest : valueTest l .between = do
      let low ← ordered l l.operand
      let high ← ordered l v
      return .between low high := by
    simp only [valueTest, upper, hv]
    rfl
  have hhigh : ∀ low : Value, failure? (do
      let high ← ordered l v
      return ValueTest.between low high : Except CompileError ValueTest) =
        failure? (ordered l v) := by
    intro low
    exact (failure?_bind (o := none) fun _ _ => rfl).trans Option.or_none
  rw [htest, failure?_bind fun low _ => hhigh low, failure?_ordered, failure?_ordered]
  cases Leaf.isOrdered l.operand <;> simp

theorem failure?_elementTest (h : l.validate = .ok ()) {shape : Shape} {m : Membership}
    (hop : l.operation = .search shape m) : failure? (elementTest l m) = none := by
  cases m with
  | contains => rfl
  | between =>
    obtain ⟨v, hv⟩ := Leaf.exists_upper_of_arity h (by rw [hop]; rfl)
    rw [elementTest, failure?_map, upper, hv]
    rfl

/-- A leaf that is well formed has a predicate, unless its operands do not suit. -/
theorem failure?_ofLeaf (h : l.validate = .ok ()) : failure? (ofLeaf l) = l.refusal? := by
  unfold ofLeaf Leaf.refusal? Leaf.unsuitable?
  cases hop : l.operation with
  | compare c =>
    cases c with
    | equal =>
      simp only
      split
      · next hcase =>
        simp only [Leaf.isCaseInsensitive, Bool.and_eq_true] at hcase
        rw [failure?_ofText, hcase.2.2]
        rfl
      · rfl
    | between =>
      obtain ⟨v, hv⟩ := Leaf.exists_upper_of_arity h (by rw [hop]; rfl)
      simp only [reduceCtorEq, false_and, if_false, failure?_map, failure?_between hv, hv, hop,
        Option.all_some]
      split <;> rfl
    | oneOf =>
      simp only [reduceCtorEq, false_and, if_false, failure?_map, valueTest, hop]
      cases l.operand <;> rfl
    | _ =>
      simp only [reduceCtorEq, false_and, if_false, failure?_map, valueTest, failure?_ordered, hop]
      split <;> rfl
  | matchText t =>
    simp only [failure?_ofText, hop]
    split <;> rfl
  | search shape m =>
    simp only [failure?_map, failure?_elementTest h hop]
    rfl
  | geoWithin =>
    simp only
    cases Region.ofValue? l.operand <;> rfl
  | group j =>
    have hgroup := (Leaf.validate_eq_ok_iff.1 h).2.1
    simp [hop, Operation.isGroup] at hgroup

end Predicate

namespace Qualifier

/-- What is wrong with a node, its children apart. -/
def fault? : Qualifier → Option QualifierError
  | key v => if v.isNull then some .nullKey else none
  | leaf l => failure? l.validate
  | group j qs => if qs.isEmpty then some (.emptyGroup j) else none

/-- The node is a condition on the key. -/
def isKey : Qualifier → Bool
  | key _ => true
  | _ => false

mutual
theorem failure?_validate (q : Qualifier) : failure? q.validate = q.nodes.findSome? fault? := by
  cases q with
  | key v =>
    rw [validate, nodes, List.findSome?_singleton, fault?]
    split <;> rfl
  | leaf l => rw [validate, nodes, List.findSome?_singleton, fault?]
  | group j qs =>
    cases qs with
    | nil => rfl
    | cons q qs =>
      rw [validate, nodes, List.findSome?_cons]
      exact failure?_validateAll (q :: qs)

/-- Checking trees finds the first faulty node, a group coming before its children. -/
theorem failure?_validateAll (qs : List Qualifier) :
    failure? (validateAll qs) = (nodesOf qs).findSome? fault? := by
  cases qs with
  | nil => rfl
  | cons q qs =>
    rw [validateAll, nodesOf, List.findSome?_append, ← failure?_validate q,
      ← failure?_validateAll qs]
    exact failure?_bind fun _ _ => rfl
end

/-- Trees are well formed when each of them is. -/
theorem validateAll_eq_ok_iff (qs : List Qualifier) :
    validateAll qs = .ok () ↔ ∀ q ∈ qs, q.validate = .ok () := by
  induction qs with
  | nil => simp [validateAll]
  | cons q qs ih =>
    rw [validateAll, bind_eq_ok_iff, List.forall_mem_cons, ih]
    constructor
    · rintro ⟨_, hq, hqs⟩
      exact ⟨hq, hqs⟩
    · rintro ⟨hq, hqs⟩
      exact ⟨(), hq, hqs⟩

/-- A group is well formed when it has children and they are. -/
theorem validate_group_eq_ok_iff (j : Junction) (qs : List Qualifier) :
    (group j qs).validate = .ok () ↔ qs ≠ [] ∧ ∀ q ∈ qs, q.validate = .ok () := by
  rw [← validateAll_eq_ok_iff]
  cases qs with
  | nil => simp [validate]
  | cons q qs => rw [validate, validateAll, and_iff_right (List.cons_ne_nil q qs)]

mutual
theorem containsKey_eq (q : Qualifier) : q.containsKey = q.nodes.any isKey := by
  cases q with
  | key v => rfl
  | leaf l => rfl
  | group j qs =>
    rw [containsKey, nodes, List.any_cons, anyContainsKey_eq qs]
    rfl

theorem anyContainsKey_eq (qs : List Qualifier) : anyContainsKey qs = (nodesOf qs).any isKey := by
  cases qs with
  | nil => rfl
  | cons q qs =>
    rw [anyContainsKey, nodesOf, List.any_append, containsKey_eq q, anyContainsKey_eq qs]
end

mutual
theorem mem_leaves_iff {l : Leaf} (q : Qualifier) : l ∈ q.leaves ↔ leaf l ∈ q.nodes := by
  cases q with
  | key v => simp [leaves, nodes]
  | leaf l' => simp [leaves, nodes]
  | group j qs =>
    rw [leaves, nodes, List.mem_cons, mem_leavesOf_iff qs]
    simp

theorem mem_leavesOf_iff {l : Leaf} (qs : List Qualifier) :
    l ∈ leavesOf qs ↔ leaf l ∈ nodesOf qs := by
  cases qs with
  | nil => simp [leavesOf, nodesOf]
  | cons q qs =>
    rw [leavesOf, nodesOf, List.mem_append, List.mem_append, mem_leaves_iff q, mem_leavesOf_iff qs]
end

/-- Trees without a fault have leaves without one. -/
theorem validate_of_mem_leavesOf {qs : List Qualifier} (h : (nodesOf qs).findSome? fault? = none)
    {l : Leaf} (hl : l ∈ leavesOf qs) : l.validate = .ok () := by
  have hnode := List.findSome?_eq_none_iff.1 h (leaf l) ((mem_leavesOf_iff qs).1 hl)
  obtain ⟨_, hvalid⟩ := failure?_eq_none_iff.1 hnode
  exact hvalid

/-- Among leaves without a fault the first that has no predicate is the first whose operands do not
suit. -/
theorem findSome?_ofLeaf {qs : List Qualifier} (h : (nodesOf qs).findSome? fault? = none) :
    ((leavesOf qs).findSome? fun l => failure? (Predicate.ofLeaf l)) =
      (leavesOf qs).findSome? Leaf.refusal? := by
  have hleaves : ∀ l ∈ leavesOf qs, failure? (Predicate.ofLeaf l) = l.refusal? := fun l hl =>
    Predicate.failure?_ofLeaf (validate_of_mem_leavesOf h hl)
  generalize leavesOf qs = ls at hleaves
  induction ls with
  | nil => rfl
  | cons l ls ih =>
    rw [List.forall_mem_cons] at hleaves
    rw [List.findSome?_cons, List.findSome?_cons, hleaves.1, ih hleaves.2]

mutual
theorem failure?_ofQualifier (q : Qualifier) (h : q.containsKey = false) :
    failure? (Predicate.ofQualifier q) =
      q.leaves.findSome? fun l => failure? (Predicate.ofLeaf l) := by
  cases q with
  | key v => simp [containsKey] at h
  | leaf l => rw [Predicate.ofQualifier, leaves, List.findSome?_singleton]
  | group j qs =>
    rw [containsKey] at h
    rw [Predicate.ofQualifier, leaves, failure?_map, failure?_ofQualifiers qs h]

/-- Making predicates of trees finds the first leaf that has none. -/
theorem failure?_ofQualifiers (qs : List Qualifier) (h : anyContainsKey qs = false) :
    failure? (Predicate.ofQualifiers qs) =
      (leavesOf qs).findSome? fun l => failure? (Predicate.ofLeaf l) := by
  cases qs with
  | nil => rfl
  | cons q qs =>
    rw [anyContainsKey, Bool.or_eq_false_iff] at h
    rw [Predicate.ofQualifiers, leavesOf, List.findSome?_append, ← failure?_ofQualifier q h.1,
      ← failure?_ofQualifiers qs h.2]
    apply failure?_bind
    intro p _
    exact (failure?_bind (o := none) fun _ _ => rfl).trans Option.or_none
end

end Qualifier

end IndexPlanner

import IndexPlanner.Proofs.Plan.Answer
import IndexPlanner.Proofs.Qualifier.Fault

/-! Which queries are refused, and why. The checks come one after the other, and none of them looks
at the known indexes: a leaf that an index answers would have had a predicate, too. -/
namespace IndexPlanner.Plan

open Qualifier (nodesOf leavesOf)

/-- The condition on the key if it is all that is asked. -/
def loneKey? : List Qualifier → Option Json.Value
  | [.key v] => some v
  | _ => none

/-- Why a query is refused. The first faulty node comes before everything else. Then a condition on
the key is fine alone and nowhere else, there has to be something to ask for, and the operands of
all leaves have to suit. -/
def refusal? (scope : Scope) (filter : Option IndexFilter) (qs : List Qualifier) :
    Option CompileError :=
  match (nodesOf qs).findSome? Qualifier.fault? with
  | some e => some (.malformed e)
  | none =>
    if (loneKey? qs).isSome then none
    else if (nodesOf qs).any Qualifier.isKey then some .keyNotAlone
    else if qs.isEmpty && filter.isNone then some (.emptyStatement scope)
    else (leavesOf qs).findSome? Leaf.refusal?

variable {s : Snapshot} {scope : Scope} {filter : Option IndexFilter} {qs : List Qualifier}

/-! What is left over fails where the query fails. -/

theorem anyContainsKey_eq_false_iff (qs : List Qualifier) :
    Qualifier.anyContainsKey qs = false ↔ ∀ q ∈ qs, q.containsKey = false := by
  induction qs with
  | nil => simp [Qualifier.anyContainsKey]
  | cons q qs ih => rw [Qualifier.anyContainsKey, Bool.or_eq_false_iff, ih, List.forall_mem_cons]

theorem containsKey_group_eq_false_iff (j : Junction) (qs : List Qualifier) :
    (Qualifier.group j qs).containsKey = false ↔ ∀ q ∈ qs, q.containsKey = false := by
  rw [Qualifier.containsKey, anyContainsKey_eq_false_iff]

theorem residual_keyless {st : Statement} (h : st.Outlines s scope qs)
    (hkey : Qualifier.anyContainsKey qs = false) :
    Qualifier.anyContainsKey st.residual = false := by
  rw [anyContainsKey_eq_false_iff] at hkey ⊢
  exact h.forall_mem_residual (fun cs _ => containsKey_group_eq_false_iff .and cs) hkey

/-- The leaf that is cut out has a predicate, so the first leaf that has none is left over. -/
theorem findSome?_residual {st : Statement} (h : st.Outlines s scope qs) :
    ((leavesOf st.residual).findSome? fun l => failure? (Predicate.ofLeaf l)) =
      (leavesOf qs).findSome? fun l => failure? (Predicate.ofLeaf l) := by
  cases h with
  | whole _ _ hresidual => rw [hresidual]
  | cut _ _ hf hcut =>
    obtain ⟨before, after, hqs, hrs⟩ := hcut.leavesOf_eq
    obtain ⟨p, hp, _⟩ := exists_translates_of_filter? hf
    rw [hqs, hrs, List.findSome?_append, List.findSome?_append, List.findSome?_cons, hp]
    rfl

theorem failure?_compileScan (s : Snapshot) (scope : Scope) (filter : Option IndexFilter)
    (hkey : Qualifier.anyContainsKey qs = false) :
    failure? (compileScan s scope filter qs) =
      (leavesOf qs).findSome? fun l => failure? (Predicate.ofLeaf l) := by
  have hresidual : failure? (Predicate.conjunction (outline s scope filter qs).residual) =
      (leavesOf qs).findSome? fun l => failure? (Predicate.ofLeaf l) := by
    rw [Predicate.conjunction, failure?_map]
    cases filter with
    | some f => exact Qualifier.failure?_ofQualifiers qs hkey
    | none =>
      have ho := outlines_outline s scope qs
      rw [Qualifier.failure?_ofQualifiers _ (residual_keyless ho hkey), findSome?_residual ho]
  rw [← hresidual, compileScan]
  exact (failure?_bind (o := none) fun _ _ => rfl).trans Option.or_none

theorem eq_of_loneKey? {v : Json.Value} (h : loneKey? qs = some v) : qs = [.key v] := by
  unfold loneKey? at h
  split at h
  · cases h
    rfl
  · cases h

/-- A query with well-formed qualifiers that is not a single condition on the key. -/
theorem compile_of_not_lone (hvalid : Qualifier.validateAll qs = .ok ())
    (hlone : loneKey? qs = none) :
    compile s scope filter qs =
      if Qualifier.anyContainsKey qs then .error .keyNotAlone
      else if qs.isEmpty && filter.isNone then .error (.emptyStatement scope)
      else compileScan s scope filter qs := by
  unfold compile
  simp only [hvalid]
  split
  · cases hlone
  · rfl

theorem failure?_compile (s : Snapshot) (scope : Scope) (filter : Option IndexFilter)
    (qs : List Qualifier) : failure? (compile s scope filter qs) = refusal? scope filter qs := by
  have hnodes := Qualifier.failure?_validateAll qs
  cases hvalid : Qualifier.validateAll qs with
  | error e =>
    rw [hvalid] at hnodes
    simp only [compile, hvalid, refusal?, ← hnodes, failure?]
  | ok _ =>
    rw [hvalid] at hnodes
    simp only [refusal?, ← hnodes, failure?]
    cases hlone : loneKey? qs with
    | some v =>
      rw [eq_of_loneKey? hlone] at hvalid ⊢
      simp only [compile, hvalid]
      rfl
    | none =>
      rw [compile_of_not_lone hvalid hlone, ← Qualifier.anyContainsKey_eq]
      cases hkey : Qualifier.anyContainsKey qs with
      | true => rfl
      | false =>
        cases hempty : qs.isEmpty && filter.isNone with
        | true => rfl
        | false =>
          have hscan := failure?_compileScan s scope filter hkey
          have hleaves := Qualifier.findSome?_ofLeaf hnodes.symm
          simp only [Bool.false_eq_true, if_false, Option.isSome_none]
          rw [← hleaves]
          exact hscan

/-- A query is malformed because of a faulty node and nothing else. -/
theorem compile_eq_malformed_iff {e : QualifierError} :
    compile s scope filter qs = .error (.malformed e) ↔
      (nodesOf qs).findSome? Qualifier.fault? = some e := by
  rw [← failure?_eq_some_iff, failure?_compile, refusal?]
  cases (nodesOf qs).findSome? Qualifier.fault? with
  | some e' => simp
  | none =>
    have hleaves : (leavesOf qs).findSome? Leaf.refusal? ≠ some (.malformed e) := by
      intro hsome
      obtain ⟨l, _, hl⟩ := List.exists_of_findSome?_eq_some hsome
      obtain ⟨_, _, hcause⟩ := Option.map_eq_some_iff.1 hl
      cases hcause
    simp only [reduceCtorEq, iff_false]
    split
    · simp
    · split
      · simp
      · split
        · simp
        · exact hleaves

/-- What becomes of a query is settled without the known indexes. It is refused with the first of
its faults in the order of the checks; otherwise a single condition on the key becomes a fetch and
everything else a query of the store. So under any two snapshots the same queries are refused, with
the same errors. -/
theorem compile_outcome (s : Snapshot) (scope : Scope) (filter : Option IndexFilter)
    (qs : List Qualifier) :
    (match refusal? scope filter qs, loneKey? qs with
      | some e, _ => compile s scope filter qs = .error e
      | none, some v => compile s scope filter qs = .ok (.lookup ⟨scope.space, scope.set, v⟩)
      | none, none => ∃ st, compile s scope filter qs = .ok (.scan st)) ∧
    ∀ (t : Snapshot) (e : CompileError),
      compile s scope filter qs = .error e ↔ compile t scope filter qs = .error e := by
  have hfailure := failure?_compile s scope filter qs
  constructor
  · split
    · next e h =>
      rw [h] at hfailure
      exact failure?_eq_some_iff.1 hfailure
    · next v h hlone =>
      rw [h] at hfailure
      obtain ⟨p, hp⟩ := failure?_eq_none_iff.1 hfailure
      rw [eq_of_loneKey? hlone] at hp ⊢
      cases p with
      | lookup k =>
        obtain ⟨_, hv, rfl⟩ := exists_key_of_compile hp
        cases hv
        exact hp
      | scan st =>
        have hkey := (compile_eq_scan_iff.1 hp).1.keyless
        simp [Qualifier.anyContainsKey, Qualifier.containsKey] at hkey
    · next h hlone =>
      rw [h] at hfailure
      obtain ⟨p, hp⟩ := failure?_eq_none_iff.1 hfailure
      cases p with
      | lookup k =>
        obtain ⟨v, rfl, _⟩ := exists_key_of_compile hp
        cases hlone
      | scan st => exact ⟨st, hp⟩
  · intro t e
    rw [← failure?_eq_some_iff, ← failure?_eq_some_iff, hfailure, failure?_compile]

/-- A condition on the key matters before an operand that does not suit. -/
example : refusal? ⟨"test", none⟩ none
    [.leaf { adult with operand := .null }, .group .or [.key (.ofInt 1)]] = some .keyNotAlone := by
  decide +kernel

end IndexPlanner.Plan

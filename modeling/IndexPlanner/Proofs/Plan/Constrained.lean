import IndexPlanner.Proofs.Plan.Refusal

/-! Scans always ask for something. No scan comes without a filter and without a predicate, and the
predicate has no group without clauses, which would accept everything or nothing. -/
namespace IndexPlanner

namespace Predicate

mutual
/-- The nodes of a predicate, a group before its clauses. -/
def nodes : Predicate → List Predicate
  | group j ps => group j ps :: nodesOf ps
  | p => [p]

/-- The nodes of predicates, one predicate after the other. -/
def nodesOf : List Predicate → List Predicate
  | [] => []
  | p :: ps => nodes p ++ nodesOf ps
end

variable {p : Predicate} {ps : List Predicate} {qs : List Qualifier}

theorem nodes_of_bin? {bin : String} (h : p.bin? = some bin) : p.nodes = [p] := by
  cases p with
  | group j ps => cases h
  | _ => rfl

/-! Groups have clauses where well-formed groups have children. -/

theorem eq_nil_iff_of_ofQualifiers (h : ofQualifiers qs = .ok ps) : ps = [] ↔ qs = [] := by
  cases qs with
  | nil =>
    cases h
    simp
  | cons q qs =>
    obtain ⟨p, ps', _, _, rfl⟩ := ofQualifiers_cons_eq_ok.1 h
    simp

mutual
theorem clauses_ne_nil (q : Qualifier) {p : Predicate} (hvalid : q.validate = .ok ())
    (h : ofQualifier q = .ok p) : ∀ j cs, group j cs ∈ p.nodes → cs ≠ [] := by
  intro j cs hmem
  cases q with
  | key v => cases h
  | leaf l =>
    have hleaf := bin?_of_ofLeaf h
    rw [nodes_of_bin? hleaf, List.mem_singleton] at hmem
    subst hmem
    cases hleaf
  | group j' qs =>
    rw [ofQualifier, map_eq_ok_iff] at h
    obtain ⟨ps, hps, rfl⟩ := h
    obtain ⟨hne, hall⟩ := (Qualifier.validate_group_eq_ok_iff j' qs).1 hvalid
    rw [nodes, List.mem_cons] at hmem
    rcases hmem with heq | hmem
    · cases heq
      exact mt (eq_nil_iff_of_ofQualifiers hps).1 hne
    · exact clauses_ne_nil_of_mem_nodesOf qs hall hps j cs hmem

/-- In the predicates of well-formed trees no group is without clauses. -/
theorem clauses_ne_nil_of_mem_nodesOf (qs : List Qualifier) {ps : List Predicate}
    (hvalid : ∀ q ∈ qs, q.validate = .ok ()) (h : ofQualifiers qs = .ok ps) :
    ∀ j cs, group j cs ∈ nodesOf ps → cs ≠ [] := by
  intro j cs hmem
  cases qs with
  | nil =>
    cases h
    cases hmem
  | cons q qs =>
    obtain ⟨p, ps', hp, hps, rfl⟩ := ofQualifiers_cons_eq_ok.1 h
    obtain ⟨hq, hqs⟩ := List.forall_mem_cons.1 hvalid
    rw [nodesOf, List.mem_append] at hmem
    rcases hmem with hmem | hmem
    · exact clauses_ne_nil q hq hp j cs hmem
    · exact clauses_ne_nil_of_mem_nodesOf qs hqs hps j cs hmem
end

theorem conjunction_eq_none_iff {o : Option Predicate} (h : conjunction qs = .ok o) :
    o = none ↔ qs = [] := by
  rw [conjunction, map_eq_ok_iff] at h
  obtain ⟨ps, hps, rfl⟩ := h
  rw [← eq_nil_iff_of_ofQualifiers hps]
  rcases ps with _ | ⟨p, _ | ⟨p', rest⟩⟩
  · simp
  · simp
  · simp

theorem clauses_ne_nil_of_conjunction (hvalid : ∀ q ∈ qs, q.validate = .ok ())
    (h : conjunction qs = .ok (some p)) : ∀ j cs, group j cs ∈ p.nodes → cs ≠ [] := by
  intro j cs hmem
  rw [conjunction, map_eq_ok_iff] at h
  obtain ⟨ps, hps, hp⟩ := h
  have hclauses := clauses_ne_nil_of_mem_nodesOf qs hvalid hps j cs
  rcases ps with _ | ⟨p', _ | ⟨p'', rest⟩⟩
  · cases hp
  · cases hp
    apply hclauses
    rw [nodesOf, nodesOf, List.append_nil]
    exact hmem
  · cases hp
    rw [nodes, List.mem_cons] at hmem
    rcases hmem with heq | hmem
    · cases heq
      exact List.cons_ne_nil _ _
    · exact hclauses hmem

end Predicate

namespace Plan

open Pushdown (Cut)
open Qualifier (nodesOf)

variable {s : Snapshot} {scope : Scope} {filter : Option IndexFilter} {qs : List Qualifier}
variable {st : Statement}

/-! What is left over of the qualifiers. -/

theorem conjunction_of_compile (h : compile s scope filter qs = .ok (.scan st)) :
    Predicate.conjunction st.residual = .ok st.predicate := by
  obtain ⟨_, o, ho, rfl⟩ := compile_eq_scan_iff.1 h
  exact ho

/-- A scan leaves all qualifiers over and has the filter of the caller, or none; or a leaf has been
cut out of the qualifiers, for a filter. -/
theorem uncut_or_cut (h : compile s scope filter qs = .ok (.scan st)) :
    (st.pushed = none ∧ st.filter = filter ∧ st.residual = qs) ∨
      filter = none ∧ ∃ l f, st.pushed = some l ∧ st.filter = some f ∧ Cut l qs st.residual := by
  cases filter with
  | some f =>
    obtain ⟨_, o, _, rfl⟩ := compile_eq_scan_iff.1 h
    exact .inl ⟨rfl, rfl, rfl⟩
  | none =>
    obtain ⟨_, ho⟩ := outlines_of_compile h
    cases ho with
    | whole hpushed hfilter hresidual => exact .inl ⟨hpushed, hfilter, hresidual⟩
    | cut hpushed hfilter _ hcut => exact .inr ⟨rfl, _, _, hpushed, hfilter, hcut⟩

theorem forall_mem_residual {P : Qualifier → Prop}
    (hand : ∀ qs, qs ≠ [] → (P (.group .and qs) ↔ ∀ q ∈ qs, P q))
    (h : compile s scope filter qs = .ok (.scan st)) (hqs : ∀ q ∈ qs, P q) :
    ∀ q ∈ st.residual, P q := by
  cases filter with
  | some f =>
    obtain ⟨_, o, _, rfl⟩ := compile_eq_scan_iff.1 h
    exact hqs
  | none => exact (outlines_of_compile h).2.forall_mem_residual hand hqs

theorem validate_residual (h : compile s scope filter qs = .ok (.scan st)) :
    ∀ q ∈ st.residual, q.validate = .ok () := by
  apply forall_mem_residual (P := fun q => q.validate = .ok ()) _ h
  · exact (Qualifier.validateAll_eq_ok_iff qs).1 (compile_eq_scan_iff.1 h).1.valid
  · intro cs hcs
    rw [Qualifier.validate_group_eq_ok_iff, and_iff_right hcs]

theorem containsKey_residual (h : compile s scope filter qs = .ok (.scan st)) :
    ∀ q ∈ st.residual, q.containsKey = false := by
  apply forall_mem_residual (P := fun q => q.containsKey = false) _ h
  · exact (anyContainsKey_eq_false_iff qs).1 (compile_eq_scan_iff.1 h).1.keyless
  · intro cs _
    exact containsKey_group_eq_false_iff .and cs

theorem ne_nil_of_compile (h : compile s scope none qs = .ok (.scan st)) : qs ≠ [] := by
  rintro rfl
  exact absurd (compile_eq_scan_iff.1 h).1.nonempty (by decide)

/-- Nothing is left over when nothing but a filter has been given, or nothing but the pushed leaf,
alone or in an AND of its own. -/
theorem residual_eq_nil_iff (h : compile s scope filter qs = .ok (.scan st)) :
    st.residual = [] ↔ filter.isSome = true ∧ qs = [] ∨ filter = none ∧
      ∃ l, st.pushed = some l ∧ (qs = [.leaf l] ∨ qs = [.group .and [.leaf l]]) := by
  rcases uncut_or_cut h with ⟨hpushed, _, hresidual⟩ | ⟨rfl, l, f, hpushed, _, hcut⟩
  · rw [hresidual, hpushed]
    cases filter with
    | some f => simp
    | none => simp [ne_nil_of_compile h]
  · rw [hcut.eq_nil_iff, hpushed]
    simp

theorem filter_or_predicate (h : compile s scope filter qs = .ok (.scan st)) :
    st.filter.isSome = true ∨ st.predicate.isSome = true := by
  rcases uncut_or_cut h with ⟨_, hfilter, hresidual⟩ | ⟨_, l, f, _, hfilter, _⟩
  · cases filter with
    | some f => exact .inl (by rw [hfilter]; rfl)
    | none =>
      have hpred := Predicate.conjunction_eq_none_iff (conjunction_of_compile h)
      rw [hresidual] at hpred
      exact .inr (Option.isSome_iff_ne_none.2 (mt hpred.1 (ne_nil_of_compile h)))
  · exact .inl (by rw [hfilter]; rfl)

/-- A scan is never without a condition: it has a filter or a predicate. It has no predicate just
when no qualifier is left over, that is when a filter has been given and nothing else, or the
pushed leaf and nothing else. No group in the predicate is without clauses, and no condition on the
key is pushed or left over. -/
theorem constrained_of_compile (h : compile s scope filter qs = .ok (.scan st)) :
    (st.filter.isSome = true ∨ st.predicate.isSome = true) ∧
    (st.predicate = none ↔ st.residual = []) ∧
    (st.residual = [] ↔ filter.isSome = true ∧ qs = [] ∨ filter = none ∧
      ∃ l, st.pushed = some l ∧ (qs = [.leaf l] ∨ qs = [.group .and [.leaf l]])) ∧
    (∀ p, st.predicate = some p → ∀ j cs, .group j cs ∈ p.nodes → cs ≠ []) ∧
    ∀ q ∈ nodesOf (st.pushed.toList.map .leaf ++ st.residual), q.isKey = false := by
  have hpred := conjunction_of_compile h
  refine ⟨filter_or_predicate h, Predicate.conjunction_eq_none_iff hpred, residual_eq_nil_iff h,
    ?_, ?_⟩
  · intro p hp
    rw [hp] at hpred
    exact Predicate.clauses_ne_nil_of_conjunction (validate_residual h) hpred
  · have hkeyless : ∀ q ∈ st.pushed.toList.map .leaf ++ st.residual, q.containsKey = false := by
      rw [List.forall_mem_append, List.forall_mem_map]
      exact ⟨fun _ _ => rfl, containsKey_residual h⟩
    rw [← anyContainsKey_eq_false_iff, Qualifier.anyContainsKey_eq, List.any_eq_false] at hkeyless
    intro q hq
    exact Bool.eq_false_iff.2 (hkeyless q hq)

/-- Nothing is left over of an AND around the pushed leaf; the filter stays. -/
theorem constrained_of_compile_adult :
    ∃ st, compile ages ⟨"test", none⟩ none [.group .and [.leaf adult]] = .ok (.scan st) ∧
      st.residual = [] ∧ st.predicate = none ∧ st.filter.isSome = true := by
  have h : ∃ st, compile ages ⟨"test", none⟩ none [.group .and [.leaf adult]] = .ok (.scan st) ∧
      st.pushed = some adult := ⟨_, rfl, rfl⟩
  obtain ⟨st, hst, hpushed⟩ := h
  obtain ⟨hsome, hpred, hresidual, _, _⟩ := constrained_of_compile hst
  have hnil : st.residual = [] := hresidual.2 (.inr ⟨rfl, adult, hpushed, .inr rfl⟩)
  have hnone : st.predicate = none := hpred.2 hnil
  refine ⟨st, hst, hnil, hnone, ?_⟩
  rcases hsome with hfilter | hfilter
  · exact hfilter
  · rw [hnone] at hfilter
    cases hfilter

end Plan

end IndexPlanner

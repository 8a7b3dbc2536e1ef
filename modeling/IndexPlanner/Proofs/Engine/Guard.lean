import IndexPlanner.Proofs.Engine.Explanation
import IndexPlanner.Proofs.Plan.Candidates
import IndexPlanner.Proofs.Plan.Refusal
import IndexPlanner.Store.Memory

/-! Which queries the engine refuses. A query that is well formed is refused when it would go
through a whole set and nothing allows that; so a further index may let a query pass, and never
stops one. -/
namespace IndexPlanner

open Pushdown (Eligible candidates)

theorem Pushdown.Eligible.mono {s t : Snapshot} {scope : Scope} {l : Leaf} {f : IndexFilter}
    (h : s.fields ⊆ t.fields) (hs : Eligible s.indexes scope l f) :
    Eligible t.indexes scope l f := by
  rw [← filter?_eq_some_iff, filter?, Option.filter_eq_some_iff] at hs ⊢
  exact ⟨hs.1, Snapshot.hasIndexFor_mono h hs.2⟩

namespace Engine

variable {σ : Type} {e : Engine} {scope scope' : Scope} {filter : Option IndexFilter}
variable {qs : List Qualifier}

/-- A query is refused as its plan is; what the store answers is no refusal. -/
theorem select_eq_refusal_iff (store : RecordStore σ) (s : σ) {err : QueryError}
    (herr : err.IsRefusal) :
    (e.select store scope filter qs s).1 = .error err ↔ e.plan scope filter qs = .error err := by
  unfold select runChecked
  cases e.plan scope filter qs with
  | error _ => simp
  | ok p =>
    constructor
    · intro h
      exact absurd herr (not_isRefusal_of_run h)
    · intro h
      cases h

theorem guard_scan_eq_error_iff {st : Statement} :
    e.guard (.scan st) = .error (.unsafeFullScan scope') ↔
      scope' = st.scope ∧ e.scansEnabled = false ∧ st.filter = none := by
  rw [guard, Statement.isFullScan]
  cases e.scansEnabled <;> cases st.filter <;> simp [eq_comm]

theorem plan_eq_unsafeFullScan_iff :
    e.plan scope filter qs = .error (.unsafeFullScan scope') ↔
      scope' = scope ∧ (∃ p, Plan.compile e.snapshot scope filter qs = .ok p) ∧
        e.scansEnabled = false ∧ (∀ v, qs ≠ [.key v]) ∧ filter = none ∧
        ∀ l ∈ candidates qs, ∀ f, ¬ Eligible e.snapshot.indexes scope l f := by
  unfold plan
  cases hcompile : Plan.compile e.snapshot scope filter qs with
  | error err => simp
  | ok p =>
    cases p with
    | lookup k =>
      obtain ⟨v, rfl, _⟩ := Plan.exists_key_of_compile hcompile
      simp [guard]
    | scan st =>
      have hlone := (Plan.compile_eq_scan_iff.1 hcompile).1.ne_key
      have hok : ∃ p, (.ok (.scan st) : Except CompileError Plan) = .ok p := ⟨_, rfl⟩
      rw [guard_scan_eq_error_iff, Plan.scope_of_compile hcompile, Plan.filter_eq_none_iff hcompile,
        and_iff_right hlone, and_iff_right hok]

theorem plan_eq_compile_error_iff {err : CompileError} :
    e.plan scope filter qs = .error (.compile err) ↔
      Plan.refusal? scope filter qs = some err := by
  rw [← Plan.failure?_compile e.snapshot, failure?_eq_some_iff, plan]
  cases Plan.compile e.snapshot scope filter qs with
  | error _ => simp
  | ok p =>
    rcases guard_eq e p with hok | ⟨_, hrefused⟩
    · simp [hok]
    · simp [hrefused]

/-- What is refused with more bins covered is refused with fewer, for the same reason. -/
theorem plan_eq_refusal_mono {t : Snapshot} (h : e.snapshot.fields ⊆ t.fields) {err : QueryError}
    (herr : err.IsRefusal)
    (ht : plan { e with snapshot := t } scope filter qs = .error err) :
    e.plan scope filter qs = .error err := by
  cases err with
  | unsafeFullScan scope' =>
    rw [plan_eq_unsafeFullScan_iff] at ht ⊢
    obtain ⟨hscope, hcompile, hscans, hlone, hfilter, hnone⟩ := ht
    refine ⟨hscope, ?_, hscans, hlone, hfilter, ?_⟩
    · -- Whether a query compiles does not depend on the indexes.
      rw [← failure?_eq_none_iff, Plan.failure?_compile] at hcompile ⊢
      exact hcompile
    · intro l hl f hf
      exact hnone l hl f (hf.mono h)
  | compile err =>
    rw [plan_eq_compile_error_iff] at ht ⊢
    exact ht
  | store err => exact herr.elim

/-- The guard stops a query that compiles exactly when scans are not allowed, the query is no single
condition on the key, the caller gives no filter, and no candidate has both a filter and an index.
So a query that is not refused under some indexes is not refused where these bins and further ones
are covered. -/
theorem select_eq_unsafeFullScan_iff (store : RecordStore σ) (e : Engine) (scope : Scope)
    (filter : Option IndexFilter) (qs : List Qualifier) (s : σ) :
    (∀ scope', (e.select store scope filter qs s).1 = .error (.unsafeFullScan scope') ↔
      scope' = scope ∧ (∃ p, Plan.compile e.snapshot scope filter qs = .ok p) ∧
        e.scansEnabled = false ∧ (∀ v, qs ≠ [.key v]) ∧ filter = none ∧
        ∀ l ∈ candidates qs, ∀ f, ¬ Eligible e.snapshot.indexes scope l f) ∧
    ∀ t : Snapshot, e.snapshot.fields ⊆ t.fields → ∀ err : QueryError, err.IsRefusal →
      (e.select store scope filter qs s).1 ≠ .error err →
      (select { e with snapshot := t } store scope filter qs s).1 ≠ .error err := by
  constructor
  · intro scope'
    have hrefusal : (QueryError.unsafeFullScan scope').IsRefusal := trivial
    rw [select_eq_refusal_iff store s hrefusal, plan_eq_unsafeFullScan_iff]
  · intro t h err herr
    rw [ne_eq, ne_eq, select_eq_refusal_iff store s herr, select_eq_refusal_iff store s herr]
    exact mt (plan_eq_refusal_mono h herr)

/-! A query for adults called Ann, as it is written. -/

/-- A leaf on the name and one on the age. -/
def adultAnns : List Qualifier := [.leaf { Plan.ann with ignoreCase := false }, .leaf Plan.adult]

/-- The age alone is indexed and the leaf on it is pushed; with an index on the name the leaf before
it is. Neither query is stopped. -/
theorem select_eq_unsafeFullScan_iff_ann :
    (∃ st, Plan.compile Plan.ages ⟨"test", some "people"⟩ none adultAnns = .ok (.scan st) ∧
      st.pushed = some Plan.adult) ∧
    (∃ st, Plan.compile (.ofList Plan.folk) ⟨"test", some "people"⟩ none adultAnns =
      .ok (.scan st) ∧ st.pushed = some { Plan.ann with ignoreCase := false }) ∧
    Plan.ages.fields ⊆ (Snapshot.ofList Plan.folk).fields ∧
    ∀ s ∈ [Plan.ages, .ofList Plan.folk],
      (select ⟨s, false⟩ MemoryStore.recordStore ⟨"test", some "people"⟩ none adultAnns {}).1 ≠
        .error (.unsafeFullScan ⟨"test", some "people"⟩) := by
  have hfields : Plan.ages.fields ⊆ (Snapshot.ofList Plan.folk).fields := by decide +kernel
  have hages : (select ⟨Plan.ages, false⟩ MemoryStore.recordStore ⟨"test", some "people"⟩ none
      adultAnns {}).1 ≠ .error (.unsafeFullScan ⟨"test", some "people"⟩) := by
    intro h
    cases h
  have hfolk := (select_eq_unsafeFullScan_iff MemoryStore.recordStore ⟨Plan.ages, false⟩
    ⟨"test", some "people"⟩ none adultAnns {}).2 _ hfields
      (.unsafeFullScan ⟨"test", some "people"⟩) trivial hages
  refine ⟨⟨_, rfl, rfl⟩, ⟨_, rfl, rfl⟩, hfields, ?_⟩
  rw [List.forall_mem_cons, List.forall_mem_singleton]
  exact ⟨hages, hfolk⟩

end Engine

end IndexPlanner

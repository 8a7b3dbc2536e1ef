import IndexPlanner.Engine.Basic
import IndexPlanner.Proofs.Engine.Drain
import IndexPlanner.Proofs.Filter.Bounds
import IndexPlanner.Proofs.Plan.Answer
import IndexPlanner.Store.Memory

/-! What a query finds in a store in memory, and what the known indexes have to do with it. They
matter only for records that the filter of the pushed leaf overlooks. -/
namespace IndexPlanner

open Json (Members)
open Qualifier (leavesOf)

/-- Two filters of a list agree when they agree on its members. -/
theorem filter_eq_filter_iff {α : Type} {p p' : α → Bool} {l : List α} :
    l.filter p = l.filter p' ↔ ∀ x ∈ l, (p x = true ↔ p' x = true) := by
  constructor
  · intro h x hx
    have hmem : x ∈ l.filter p ↔ x ∈ l.filter p' := by rw [h]
    simpa only [List.mem_filter, hx, true_and] using hmem
  · intro h
    apply List.filter_congr
    intro x hx
    exact Bool.eq_iff_iff.2 (h x hx)

namespace Engine

variable {s : Snapshot} {scope : Scope} {filter : Option IndexFilter} {qs : List Qualifier}
variable {st : Statement}

/-- All results of a query on a store in memory. -/
def found (e : Engine) (m : MemoryStore) (scope : Scope) (filter : Option IndexFilter)
    (qs : List Qualifier) : Except QueryError (List (Except StoreError Record)) :=
  (e.select MemoryStore.recordStore scope filter qs m).1.map (·.drain.1)

/-- A query of the store finds the records of the scope that pass, in the order of the store. -/
theorem found_of_compile (h : Plan.compile s scope filter qs = .ok (.scan st)) (m : MemoryStore) :
    found ⟨s, true⟩ m scope filter qs =
      .ok ((m.records.filter fun r => r.key.isIn scope && st.passes r.bins).map .ok) := by
  have hplan : plan ⟨s, true⟩ scope filter qs = .ok (.scan st) := by
    simp [plan, h, guard]
  have hrun : (run MemoryStore.recordStore (.scan st) m).1 =
      .ok (.ofCursor (.ofRecords (m.matching st.request)) st.predicate) := rfl
  rw [found, select, hplan, runChecked, hrun]
  simp only [Except.map, ResultIterator.drain_ofRecords, MemoryStore.matching,
    List.filter_filter]
  congr 3
  funext r
  rw [ScanRequest.selects, Statement.request, Plan.scope_of_compile h, Statement.passes,
    Statement.accepts, ResultIterator.wanted, Bool.and_comm, Bool.and_assoc]

/-- Whatever is known of indexes, a query of the store stays one. -/
theorem exists_compile_scan (h : Plan.compile s scope none qs = .ok (.scan st)) (t : Snapshot) :
    ∃ st', Plan.compile t scope none qs = .ok (.scan st') := by
  have hscan := (Plan.compile_eq_scan_iff.1 h).1
  have hres : ∀ q ∈ (Plan.outline t scope none qs).residual, q.Compiles :=
    (Plan.compiles_residual_iff (Plan.outlines_outline t scope qs)).2 (Plan.compiles_of_compile h)
  obtain ⟨o, ho⟩ := (Qualifier.conjunction_isOk_iff _).2 hres
  exact ⟨_, Plan.compile_eq_scan_iff.2 ⟨hscan, o, ho, rfl⟩⟩

/-- How pushing a leaf changes an answer. A record passes the plan when it satisfies all qualifiers
and the pushed leaf does not overlook it. So a query finds the same records in the same order under
two sets of indexes exactly when the leaves pushed under the one and under the other overlook the
same among the records that it asks for. -/
theorem answer_of_compile (h : Plan.compile s scope none qs = .ok (.scan st))
    (hgeo : ∀ l ∈ leavesOf qs, l.operation = .geoWithin → l.OperandReadsBack) :
    (∀ q ∈ qs, q.Compiles) ∧
    (∀ bins, st.passes bins = true ↔ (∀ q ∈ qs, q.Holds bins) ∧ ¬ st.Overlooks bins) ∧
    (∀ m, found ⟨s, true⟩ m scope none qs =
      .ok ((m.records.filter fun r => r.key.isIn scope && st.passes r.bins).map .ok)) ∧
    ∀ t : Snapshot, ∃ st', Plan.compile t scope none qs = .ok (.scan st') ∧
      ∀ m, found ⟨s, true⟩ m scope none qs = found ⟨t, true⟩ m scope none qs ↔
        ∀ r ∈ m.records, r.key.isIn scope = true → (∀ q ∈ qs, q.Holds r.bins) →
          (st.Overlooks r.bins ↔ st'.Overlooks r.bins) := by
  refine ⟨Plan.compiles_of_compile h, Plan.passes_iff_of_compile h hgeo, found_of_compile h, ?_⟩
  intro t
  obtain ⟨st', h'⟩ := exists_compile_scan h t
  refine ⟨st', h', ?_⟩
  intro m
  rw [found_of_compile h, found_of_compile h', Except.ok.injEq,
    List.map_inj_right fun _ _ => Except.ok.inj, filter_eq_filter_iff]
  apply forall_congr'
  intro r
  apply forall_congr'
  intro _
  rw [Bool.and_eq_true, Bool.and_eq_true, Plan.passes_iff_of_compile h hgeo,
    Plan.passes_iff_of_compile h' hgeo]
  grind

/-! Adults near the origin once more: an age beyond the signed words is overlooked. -/

/-- Adults, at any place since all of them are adults. -/
def nearAdults : List Qualifier :=
  [.leaf Plan.adult, .group .or [.leaf Plan.adult, .leaf Plan.near]]

/-- The age of nobody, but a number. -/
def beyond : Members := [("age", .ofInt 0x8000000000000000)]

theorem nearAdults_holds : ∀ q ∈ nearAdults, q.Holds beyond := by
  have hadult : (Predicate.compare "age" (.greater (.ofInt 28))).accepts beyond = true := by
    decide +kernel
  intro q hq
  simp only [nearAdults, List.mem_cons, List.not_mem_nil, or_false] at hq
  rcases hq with rfl | rfl
  · exact ⟨_, rfl, hadult⟩
  · refine ⟨_, rfl, ?_⟩
    rw [Predicate.accepts, Predicate.someAccepts]
    exact Bool.or_eq_true_iff.2 (.inl hadult)

theorem operandReadsBack_near : Plan.near.OperandReadsBack :=
  fun _ _ => IndexFilter.read_unitCircle

theorem nearAdults_operandReadsBack :
    ∀ l ∈ leavesOf nearAdults, l.operation = .geoWithin → l.OperandReadsBack := by
  intro l hl hop
  simp only [nearAdults, leavesOf, Qualifier.leaves, List.append_nil, List.cons_append,
    List.nil_append, List.mem_cons, List.not_mem_nil, or_false] at hl
  rcases hl with rfl | rfl | rfl
  · cases hop
  · cases hop
  · exact operandReadsBack_near

/-- A record satisfies all qualifiers and does not pass under the index. -/
theorem answer_of_compile_nearAdults :
    ∃ st, Plan.compile Plan.ages ⟨"test", none⟩ none nearAdults = .ok (.scan st) ∧
      (∀ q ∈ nearAdults, q.Holds beyond) ∧ st.passes beyond = false := by
  refine ⟨_, rfl, nearAdults_holds, ?_⟩
  have hpasses := (@answer_of_compile Plan.ages ⟨"test", none⟩ nearAdults _ rfl
    nearAdults_operandReadsBack).2.1 beyond
  rw [Bool.eq_false_iff, ne_eq, hpasses]
  intro h
  exact h.2 ⟨Plan.adult, rfl, rfl, _, rfl, rfl⟩

end Engine

end IndexPlanner

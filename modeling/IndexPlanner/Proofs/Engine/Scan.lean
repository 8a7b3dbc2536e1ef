import IndexPlanner.Proofs.Engine.Drain
import IndexPlanner.Proofs.Engine.Explanation
import IndexPlanner.Proofs.Engine.Run
import IndexPlanner.Proofs.Plan.Answer

/-! What a scan finds is settled when it is opened: the records that the store holds then. Whatever
is put or opened while they are read does not matter. -/
namespace IndexPlanner

open Cursor (ofRecords)
open ResultIterator (wanted)

theorem Key.isIn_iff {k : Key} {scope : Scope} : k.isIn scope = true ↔
    k.space = scope.space ∧ (scope.set = none ∨ k.set = scope.set) := by
  simp [isIn]

namespace ResultIterator

variable {it it' : ResultIterator} {predicate : Option Predicate} {rs : List Record}

/-- One pull more in the first next call changes neither items nor results. -/
theorem live_of_pull (h : it.next = { it'.next with calls := .pull :: it'.next.calls }) (n : Nat) :
    (it.live (List.replicate (n + 1) .next)).items =
        (it'.live (List.replicate (n + 1) .next)).items ∧
      (it.live (List.replicate (n + 1) .next)).results =
        (it'.live (List.replicate (n + 1) .next)).results := by
  rw [List.replicate_succ]
  simp only [live, h, true_and]

/-- Next calls on results of records get the wanted records in order, and nothing after them; by
then the others have been skipped. -/
theorem live_ofRecords (h : it.feed = .stream (ofRecords rs) predicate) (n : Nat) :
    (it.live (List.replicate n .next)).items =
        handedOut ((rs.filter (wanted predicate)).map .ok) n ∧
      (rs.countP (wanted predicate) < n → (it.live (List.replicate n .next)).results =
        ⟨.closed, it.skipped + rs.countP (!wanted predicate ·)⟩) := by
  induction rs generalizing it n with
  | nil =>
    cases n with
    | zero => exact ⟨rfl, fun hn => absurd hn (Nat.lt_irrefl 0)⟩
    | succ n =>
      have hnext := next_ofRecords_nil h
      have hended : (it.ended 0).feed = .closed := rfl
      rw [List.replicate_succ]
      simp only [live, hnext, live_closed hended, List.filter_nil, List.map_nil, handedOut_nil,
        List.count_replicate_self, List.replicate_succ, true_and]
      exact fun _ => rfl
  | cons r rs ih =>
    cases n with
    | zero => exact ⟨rfl, fun hn => absurd hn (Nat.not_lt_zero _)⟩
    | succ n =>
      by_cases hr : wanted predicate r = true
      · have hnext := next_ofRecords_wanted h hr
        have hfeed : it.next.results.feed = .stream (ofRecords rs) predicate := by rw [hnext]
        obtain ⟨hitems, hresults⟩ := ih hfeed n
        rw [List.replicate_succ]
        simp only [live, hitems]
        rw [List.filter_cons_of_pos hr, List.map_cons, handedOut_cons, hnext,
          List.countP_cons_of_pos hr, List.countP_cons_of_neg (by simp [hr])]
        refine ⟨rfl, fun hn => ?_⟩
        rw [hnext] at hresults
        exact hresults (by omega)
      · have hr := Bool.eq_false_iff.2 hr
        have hnext := next_ofRecords_away h hr rfl
        have hfeed : ResultIterator.feed ⟨.stream (ofRecords rs) predicate, it.skipped + 1⟩ =
            .stream (ofRecords rs) predicate := rfl
        obtain ⟨hitems, hresults⟩ := ih hfeed (n + 1)
        obtain ⟨hitems', hresults'⟩ := live_of_pull hnext n
        rw [hitems', hresults', hitems, List.filter_cons_of_neg (by simp [hr]),
          List.countP_cons_of_neg (by simp [hr]), List.countP_cons_of_pos (by simp [hr])]
        refine ⟨rfl, fun hn => ?_⟩
        rw [hresults hn, Nat.add_right_comm, Nat.add_assoc]

end ResultIterator

theorem Query.scope_of_plan {q : Query} {e : Engine} {st : Statement}
    (h : q.plan e = .ok (.scan st)) : st.scope = q.scope := by
  cases q with
  | select scope filter qs => exact Plan.scope_of_compile (Engine.compile_of_plan h).1
  | scanAll scope =>
    obtain hok | ⟨_, herror⟩ := e.guard_eq (.scan { scope })
    · have hst := hok.symm.trans h
      cases hst
      rfl
    · have hst := herror.symm.trans h
      cases hst

/-- The records that a planned query asks the store for. -/
theorem ScanRequest.selects_iff {q : Query} {e : Engine} {st : Statement}
    (h : q.plan e = .ok (.scan st)) (r : Record) : st.request.selects r = true ↔
      r.key.space = q.scope.space ∧ (q.scope.set = none ∨ r.key.set = q.scope.set) ∧
        ∀ f ∈ st.filter, f.accepts r.bins = true := by
  rw [selects, Statement.request, Query.scope_of_plan h, Bool.and_eq_true, Key.isIn_iff,
    Option.all_eq_true, and_assoc]
  rfl

namespace Session

open MemoryStore (recordStore)

variable {s : Session MemoryStore} {q : Query} {st : Statement}

/-- A scan of a store in memory opens results of the records that it asks for. -/
theorem find_of_plan (hplan : q.plan s.engine = .ok (.scan st)) (name : String) :
    let it := ResultIterator.ofCursor (ofRecords (s.store.matching st.request)) st.predicate
    (s.find name q).1 = .ok it ∧ (s.find name q).2.results? name = some it := by
  have hfind : s.find name q = openWith recordStore s name
      (Engine.runChecked recordStore (q.plan s.engine) s.store) := by
    cases q <;> rfl
  rw [hfind, hplan]
  exact ⟨rfl, results?_keep⟩

/-- What a scan finds is settled when it is opened. Its next calls give the records of the scope
that the store holds then, less the ones that filter or predicate refuse, each once and in the order
of the store, and nothing after them, whatever else goes on in the session between these calls. When
there are no more, the results are closed and have skipped what only the predicate refused. -/
theorem items_of_scan (name : String) (hplan : q.plan s.engine = .ok (.scan st)) :
    let found := s.store.records.filter fun r =>
      r.key.space = q.scope.space ∧ (q.scope.set = none ∨ r.key.set = q.scope.set) ∧
        ∀ f ∈ st.filter, f.accepts r.bins = true
    (∃ it, (s.find name q).1 = .ok it) ∧
      ∀ calls : List SessionCall, (∀ call ∈ calls, call.Spares name) →
        let n := calls.countP (·.asks name)
        (s.find name q).2.itemsOf name calls =
            handedOut ((found.filter (st.accepts ·.bins)).map .ok) n ∧
          (found.countP (st.accepts ·.bins) < n →
            ∃ last, ((s.find name q).2.run calls).results? name = some last ∧
              last.isClosed = true ∧ last.skipped = found.countP (!st.accepts ·.bins)) := by
  intro found
  have hfound : s.store.matching st.request = found := by
    apply List.filter_congr
    intro r _
    rw [Bool.eq_iff_iff, decide_eq_true_iff, ScanRequest.selects_iff hplan]
  obtain ⟨hopen, hresults⟩ := find_of_plan hplan name
  rw [hfound] at hopen hresults
  refine ⟨⟨_, hopen⟩, ?_⟩
  intro calls hcalls n
  have hfeed : (ResultIterator.ofCursor (ofRecords found) st.predicate).feed =
      .stream (ofRecords found) st.predicate := rfl
  obtain ⟨hlive, hended⟩ := ResultIterator.live_ofRecords hfeed n
  obtain ⟨hitems, hlast⟩ := items_eq_live hresults hcalls
  refine ⟨hitems.trans hlive, ?_⟩
  intro hn
  refine ⟨_, hlast.trans (congrArg some (hended hn)), rfl, ?_⟩
  exact Nat.zero_add _

/-! Ages between 28 and 35 in one set. The filter refuses one record, the predicate another one. -/

/-- A record of somebody of an age. -/
def aged (space : String) (number age : Int) : Record :=
  ⟨⟨space, some "people", .ofInt number⟩, [("age", .ofInt age)], 1⟩

/-- Two namespaces in one store, and an index on the bin of the age. -/
def census : Session MemoryStore where
  store := { records := [aged "test" 1 17, aged "other" 2 30, aged "test" 3 40, aged "test" 4 30] }
  engine := { snapshot := Plan.ages }

/-- The leaves `age > 28` and `age < 35` on the people of one namespace. -/
def between : Query :=
  .select ⟨"test", some "people"⟩ none
    [.leaf Plan.adult,
      .leaf { field := "age", operation := .compare .less, operand := .ofInt 35 }]

/-- Records that are put, and other results that are opened, do not matter to open results. -/
theorem items_of_scan_census :
    ∃ st, between.plan census.engine = .ok (.scan st) ∧
      let calls := [.put (aged "test" 5 31), .find "others" between, .next "results",
        .next "others", .drop "others", .put (aged "test" 4 50), .next "results"]
      (census.find "results" between).2.itemsOf "results" calls =
          [some (.ok (aged "test" 4 30)), none] ∧
        ∃ last, ((census.find "results" between).2.run calls).results? "results" = some last ∧
          last.isClosed = true ∧ last.skipped = 1 := by
  refine ⟨_, rfl, ?_⟩
  intro calls
  obtain ⟨_, hscan⟩ := items_of_scan (s := census) (q := between) "results" rfl
  obtain ⟨hitems, hlast⟩ := hscan calls (by decide)
  exact ⟨hitems, hlast (by decide +kernel)⟩

end Session

end IndexPlanner

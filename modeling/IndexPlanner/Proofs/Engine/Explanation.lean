import IndexPlanner.Engine.Explanation
import IndexPlanner.Proofs.Plan.Compile

/-! Explanations and queries that are run. Both come from the same plan: what is explained as
refused is refused before the store is asked, and what is explained as accepted is the one request
that the store gets. -/
namespace IndexPlanner

/-- What a store is asked for. -/
inductive StoreRequest where
  | get (key : Key)
  | query (request : ScanRequest)

/-- The same store, which writes down what it is asked for. -/
def RecordStore.recorded {σ : Type} (store : RecordStore σ) :
    RecordStore (σ × List StoreRequest) where
  get key s := ((store.get key s.1).1, (store.get key s.1).2, s.2 ++ [.get key])
  query q s := ((store.query q s.1).1, (store.query q s.1).2, s.2 ++ [.query q])
  noted call s := (store.noted call s.1, s.2)

/-- The query is refused by the engine; the store has no part in it. -/
def QueryError.IsRefusal : QueryError → Prop
  | unsafeFullScan _ => True
  | compile _ => True
  | store _ => False

namespace Engine

variable {σ : Type} {e : Engine} {scope : Scope} {filter : Option IndexFilter}
variable {qs : List Qualifier}

/-! The plans that may be run. -/

/-- The guard lets a plan through as it is, or refuses a scan. -/
theorem guard_eq (e : Engine) (p : Plan) :
    e.guard p = .ok p ∨ ∃ scope, e.guard p = .error (.unsafeFullScan scope) := by
  cases p with
  | lookup key => exact .inl rfl
  | scan st =>
    rw [guard]
    split
    · exact .inr ⟨_, rfl⟩
    · exact .inl rfl

theorem isRefusal_of_plan {err : QueryError} (h : e.plan scope filter qs = .error err) :
    err.IsRefusal := by
  unfold plan at h
  split at h
  · cases h
    trivial
  · next p _ =>
    rcases guard_eq e p with hok | ⟨_, hrefused⟩
    · rw [hok] at h
      cases h
    · rw [hrefused] at h
      cases h
      trivial

theorem compile_of_plan {p : Plan} (h : e.plan scope filter qs = .ok p) :
    Plan.compile e.snapshot scope filter qs = .ok p ∧ e.guard p = .ok p := by
  unfold plan at h
  split at h
  · cases h
  · next p' hp =>
    rcases guard_eq e p' with hok | ⟨_, hrefused⟩
    · rw [hok] at h
      cases h
      exact ⟨hp, hok⟩
    · rw [hrefused] at h
      cases h

/-- A guarded query without a filter is one that scans are allowed for. -/
theorem scansEnabled_of_guard {st : Statement} (h : e.guard (.scan st) = .ok (.scan st))
    (hfull : st.isFullScan = true) : e.scansEnabled = true := by
  rw [guard, hfull, Bool.true_and] at h
  cases hs : e.scansEnabled with
  | true => rfl
  | false => simp [hs] at h

/-! Running a plan is one request. -/

/-- The request of a plan. -/
def requestOf : Plan → StoreRequest
  | .lookup key => .get key
  | .scan st => .query st.request

theorem run_recorded (store : RecordStore σ) (p : Plan) (s : σ) (log : List StoreRequest) :
    run store.recorded p (s, log) =
      ((run store p s).1, (run store p s).2, log ++ [requestOf p]) := by
  cases p <;> rfl

theorem not_isRefusal_of_run {store : RecordStore σ} {p : Plan} {s : σ} {err : QueryError}
    (h : (run store p s).1 = .error err) : ¬ err.IsRefusal := by
  cases p with
  | lookup key =>
    simp only [run, Prod.map_fst] at h
    split at h
    · cases h
    · cases h
      exact id
  | scan st =>
    simp only [run, Prod.map_fst] at h
    split at h
    · cases h
    · cases h
      exact id

theorem select_recorded (store : RecordStore σ) (e : Engine) (scope : Scope)
    (filter : Option IndexFilter) (qs : List Qualifier) (s : σ) (log : List StoreRequest) :
    ((e.select store.recorded scope filter qs (s, log)).1,
      (e.select store.recorded scope filter qs (s, log)).2.1) =
        e.select store scope filter qs s := by
  unfold select runChecked
  cases e.plan scope filter qs with
  | error err => rfl
  | ok p => simp only [run_recorded]

/-- The explanation of a query and the query that is run agree. The explanation is made without a
store. A refused query gets its error, and the store is asked for nothing; an accepted one is not
refused, and the store is asked once, for what the explanation says. -/
theorem explain_agrees (store : RecordStore σ) (e : Engine) (scope : Scope)
    (filter : Option IndexFilter) (qs : List Qualifier) (s : σ) (log : List StoreRequest) :
    ((e.select store.recorded scope filter qs (s, log)).1,
      (e.select store.recorded scope filter qs (s, log)).2.1) =
        e.select store scope filter qs s ∧
    (e.explain scope filter qs).scope = scope ∧
    match (e.explain scope filter qs).verdict with
    | .rejected code reason => ∃ err : QueryError, err.IsRefusal ∧
        e.select store.recorded scope filter qs (s, log) = (.error err, s, log) ∧
        code = err.code ∧ reason = err.message
    | .accepted path key filterText _ _ =>
        (∀ err, (e.select store scope filter qs s).1 = .error err → ¬ err.IsRefusal) ∧
        ∃ request, (e.select store.recorded scope filter qs (s, log)).2.2 = log ++ [request] ∧
          match path with
          | .pointLookup => filterText = none ∧ ∃ v, key = some v.text ∧
              request = .get ⟨scope.space, scope.set, v⟩
          | .indexQuery => ∃ f, filterText = some f.text ∧ request = .query ⟨scope, some f⟩
          | .fullScan => filterText = none ∧ e.scansEnabled = true ∧
              request = .query ⟨scope, none⟩ := by
  refine ⟨select_recorded store e scope filter qs s log, rfl, ?_⟩
  cases hplan : e.plan scope filter qs with
  | error err =>
    simp only [explain, select, hplan, runChecked]
    exact ⟨err, isRefusal_of_plan hplan, rfl, rfl, rfl⟩
  | ok p =>
    obtain ⟨hcompile, hguard⟩ := compile_of_plan hplan
    simp only [explain, select, hplan, runChecked, run_recorded]
    cases p with
    | lookup key =>
      obtain ⟨v, _, rfl⟩ := Plan.exists_key_of_compile hcompile
      refine ⟨fun err => not_isRefusal_of_run, _, rfl, rfl, v, rfl, rfl⟩
    | scan st =>
      have hscope := Plan.scope_of_compile hcompile
      refine ⟨fun err => not_isRefusal_of_run, _, rfl, ?_⟩
      cases hfilter : st.filter with
      | none =>
        have hfull : st.isFullScan = true := by rw [Statement.isFullScan, hfilter]; rfl
        simp only [Plan.accessPath, hfull, if_true, Option.map_none, true_and]
        refine ⟨scansEnabled_of_guard hguard hfull, ?_⟩
        rw [requestOf, Statement.request, hscope, hfilter]
      | some f =>
        have hfull : st.isFullScan = false := by rw [Statement.isFullScan, hfilter]; rfl
        simp only [Plan.accessPath, hfull, Bool.false_eq_true, if_false, Option.map_some]
        refine ⟨f, rfl, ?_⟩
        rw [requestOf, Statement.request, hscope, hfilter]

end Engine

end IndexPlanner

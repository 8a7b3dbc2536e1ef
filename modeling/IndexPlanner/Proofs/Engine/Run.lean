import IndexPlanner.Engine.Session
import IndexPlanner.Proofs.Engine.History
import IndexPlanner.Store.Memory

/-! Sessions on a store in memory under one call after the other. Results that are open under a name
live on as if they were alone: no call that leaves the name alone has any effect on them. -/
namespace IndexPlanner

/-- What finds records: a query, or a scan of all records of a scope. -/
inductive Query where
  | select (scope : Scope) (filter : Option IndexFilter) (qs : List Qualifier)
  | scanAll (scope : Scope)

namespace Query

/-- Where the query looks for records. -/
def scope : Query → Scope
  | select scope _ _ => scope
  | scanAll scope => scope

/-- How an engine runs the query, or why it does not. -/
def plan (q : Query) (e : Engine) : Except QueryError Plan :=
  match q with
  | select scope filter qs => e.plan scope filter qs
  | scanAll scope => e.guard (.scan { scope })

end Query

/-- What is done in a session. `use` puts another engine on the same store, or the same one with
other indexes known to it. -/
inductive SessionCall where
  | put (r : Record)
  | get (key : Key)
  | use (e : Engine)
  | find (name : String) (q : Query)
  | explain (scope : Scope) (filter : Option IndexFilter) (qs : List Qualifier)
  | next (name : String)
  | drain (name : String)
  | close (name : String)
  | drop (name : String)

namespace SessionCall

/-- The call asks the results of the name for their next record. -/
def asks (name : String) : SessionCall → Bool
  | next other => other == name
  | _ => false

/-- The call asks the results of the name for no more than their next record. -/
def Spares (name : String) : SessionCall → Prop
  | find other _ => other ≠ name
  | drain other => other ≠ name
  | close other => other ≠ name
  | drop other => other ≠ name
  | _ => True

instance (name : String) : DecidablePred (Spares name)
  | find other _ | drain other | close other | drop other =>
    inferInstanceAs (Decidable (other ≠ name))
  | put _ | get _ | use _ | explain .. | next _ => .isTrue trivial

end SessionCall

namespace Session

open MemoryStore (recordStore)

/-- Opens the results of a query under a name. -/
def find (s : Session MemoryStore) (name : String) :
    Query → Except QueryError ResultIterator × Session MemoryStore
  | .select scope filter qs => s.select recordStore name scope filter qs
  | .scanAll scope => s.scanAll recordStore name scope

/-- The session after one call. Calls on results that are not there do nothing. -/
def step (s : Session MemoryStore) : SessionCall → Session MemoryStore
  | .put r => { s with store := s.store.put r }
  | .get key => { s with store := (recordStore.get key s.store).2 }
  | .use e => { s with engine := e }
  | .find name q => (s.find name q).2
  | .explain .. => s
  | .next name => ((s.next recordStore name).map (·.2)).getD s
  | .drain name => ((s.drain recordStore name).map (·.2.2)).getD s
  | .close name => ((s.close recordStore name).map (·.2)).getD s
  | .drop name => (s.drop recordStore name).2

/-- The session after one call and the other. -/
def run (s : Session MemoryStore) (calls : List SessionCall) : Session MemoryStore :=
  calls.foldl step s

/-- What the next calls on the results of the name give. -/
def itemsOf (name : String) (s : Session MemoryStore) :
    List SessionCall → List (Option (Except StoreError Record))
  | [] => []
  | call :: rest =>
    let items := (s.step call).itemsOf name rest
    if call.asks name then ((s.next recordStore name).map (·.1.item)).toList ++ items else items

variable {s : Session MemoryStore} {name other : String} {results : ResultIterator}

theorem results?_note (calls : List CursorCall) :
    (s.note recordStore calls).results? name = s.results? name := rfl

theorem results?_keep : (s.keep name results).results? name = some results := by
  simp [keep, results?]

theorem find?_others (h : other ≠ name) :
    (s.others other).find? (·.1 == name) = s.live.find? (·.1 == name) := by
  rw [others, List.find?_filter]
  congr 1
  funext entry
  by_cases hentry : entry.1 = name
  · simp [hentry, Ne.symm h]
  · simp [hentry]

theorem results?_keep_of_ne (h : other ≠ name) :
    (s.keep other results).results? name = s.results? name := by
  simp only [keep, results?]
  rw [List.find?_cons_of_neg (by simp [h]), find?_others h]

theorem results?_drop_of_ne (h : other ≠ name) :
    (s.drop recordStore other).2.results? name = s.results? name := by
  rw [drop]
  split
  · rw [results?_note]
    simp only [results?, find?_others h]
  · rfl

theorem results?_openWith_of_ne (h : other ≠ name)
    (answer : Except QueryError ResultIterator × MemoryStore) :
    (openWith recordStore s other answer).2.results? name = s.results? name := by
  simp only [openWith]
  split
  · rw [results?_keep_of_ne h, results?_drop_of_ne h]
    rfl
  · rfl

/-- Results of one name that move on are nothing to those of another. -/
theorem results?_moved_of_ne (h : other ≠ name)
    (move : ResultIterator → ResultIterator × List CursorCall) :
    (((s.results? other).map fun results =>
      note recordStore (s.keep other (move results).1) (move results).2).getD s).results? name =
        s.results? name := by
  cases hother : s.results? other with
  | none => rfl
  | some results =>
    rw [Option.map_some, Option.getD_some, results?_note, results?_keep_of_ne h]

/-- Calls that leave the name alone leave its results alone. -/
theorem results?_step {call : SessionCall} (hspares : call.Spares name)
    (hasks : call.asks name = false) : (s.step call).results? name = s.results? name := by
  cases call with
  | put r => rfl
  | get key => rfl
  | use e => rfl
  | explain scope filter qs => rfl
  | find other q =>
    cases q with
    | select scope filter qs => exact results?_openWith_of_ne hspares _
    | scanAll scope => exact results?_openWith_of_ne hspares _
  | next other =>
    have hne : other ≠ name := by simpa [SessionCall.asks] using hasks
    simp only [step, next, Option.map_map]
    exact results?_moved_of_ne hne fun results => (results.next.results, results.next.calls)
  | drain other =>
    simp only [step, drain, Option.map_map]
    exact results?_moved_of_ne hspares fun results => results.drain.2
  | close other =>
    simp only [step, close, Option.map_map]
    exact results?_moved_of_ne hspares ResultIterator.close
  | drop other => exact results?_drop_of_ne hspares

theorem next_of_results? (h : s.results? name = some results) :
    (s.next recordStore name).map (·.1.item) = some results.next.item ∧
      (s.step (.next name)).results? name = some results.next.results := by
  simp only [step, next, h, Option.map_some, Option.getD_some, true_and]
  rw [results?_note, results?_keep]

/-- Whatever else goes on in the session, the results of a name live by their next calls. -/
theorem items_eq_live {calls : List SessionCall} (h : s.results? name = some results)
    (hcalls : ∀ call ∈ calls, call.Spares name) :
    let lived := results.live (List.replicate (calls.countP (·.asks name)) .next)
    s.itemsOf name calls = lived.items ∧ (s.run calls).results? name = some lived.results := by
  induction calls generalizing s results with
  | nil => exact ⟨rfl, h⟩
  | cons call calls ih =>
    obtain ⟨hspares, hrest⟩ := List.forall_mem_cons.1 hcalls
    cases hasks : call.asks name with
    | false =>
      have hlive := ih ((results?_step hspares hasks).trans h) hrest
      rw [List.countP_cons_of_neg (by simp [hasks])]
      simp only [itemsOf, hasks, Bool.false_eq_true, if_false]
      exact hlive
    | true =>
      obtain ⟨other, rfl, rfl⟩ : ∃ other, other = name ∧ call = .next other := by
        cases call with
        | next other => exact ⟨other, by simpa [SessionCall.asks] using hasks, rfl⟩
        | _ => cases hasks
      obtain ⟨hitem, hresults⟩ := next_of_results? h
      obtain ⟨hitems, hlast⟩ := ih hresults hrest
      rw [List.countP_cons_of_pos (by simp [hasks]), List.replicate_succ]
      simp only [itemsOf, hasks, if_true, hitem, hitems]
      exact ⟨rfl, hlast⟩

end Session

end IndexPlanner

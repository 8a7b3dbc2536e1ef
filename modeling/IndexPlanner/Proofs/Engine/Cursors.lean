import IndexPlanner.Proofs.Engine.Drain
import IndexPlanner.Proofs.Engine.Run
import Mathlib.Data.Finset.Card

/-! The cursors of a store in memory and the scans that hold them. A store does not take a cursor
back by itself, so its count rests on the results: each of them closes its cursor once. The scans
that are open are counted here by what callers see of them. -/
namespace IndexPlanner

open Cursor (ofRecords)
open MemoryStore (recordStore)

namespace ResultIterator

variable {it it' : ResultIterator} {calls : List CursorCall} {predicate : Option Predicate}
variable {rs : List Record}

/-- The results come from a scan, and nothing has ended them. -/
def isScanning (it : ResultIterator) : Bool :=
  match it.feed with
  | .stream _ _ => true
  | _ => false

/-- If there is a cursor, it is one over records, and it is not closed. -/
def IsOfRecords (it : ResultIterator) : Prop :=
  ∀ c predicate, it.feed = .stream c predicate → ∃ rs, c = ofRecords rs

theorem isOfRecords_of_not_scanning (h : it.isScanning = false) : it.IsOfRecords := by
  intro c predicate hfeed
  simp [isScanning, hfeed] at h

theorem not_scanning_of_isClosed (h : it.isClosed = true) : it.isScanning = false := by
  cases hfeed : it.feed <;> simp_all [isClosed, isScanning]

theorem exists_feed_of_scanning (h : it.isScanning = true) (hrecords : it.IsOfRecords) :
    ∃ rs predicate, it.feed = .stream (ofRecords rs) predicate := by
  cases hfeed : it.feed with
  | stream c predicate =>
    obtain ⟨rs, rfl⟩ := hrecords c predicate hfeed
    exact ⟨rs, predicate, rfl⟩
  | _ => simp [isScanning, hfeed] at h

/-- Results move on from `it` to `it'`, and do so much to their cursor: it is closed when this is
what ends the scan, and not otherwise. -/
structure Moves (it it' : ResultIterator) (calls : List CursorCall) : Prop where
  isOfRecords : it'.IsOfRecords
  isScanning : it'.isScanning = true → it.isScanning = true
  count_close : calls.count .close = if it.isScanning && !it'.isScanning then 1 else 0

/-- Without a cursor there is nothing to close. -/
theorem moves_of_not_scanning (h : it.isScanning = false) (h' : it'.isScanning = false) :
    Moves it it' [] where
  isOfRecords := isOfRecords_of_not_scanning h'
  isScanning := by simp [h']
  count_close := by simp [h]

theorem moves_of_ended (h : it.isScanning = true) (h' : it'.isScanning = false)
    (hcalls : calls.count .close = 1) : Moves it it' calls where
  isOfRecords := isOfRecords_of_not_scanning h'
  isScanning := by simp [h']
  count_close := by simp [h, h', hcalls]

theorem next_of_not_scanning (h : it.isScanning = false) :
    it.next.results.isScanning = false ∧ it.next.calls = [] := by
  cases hfeed : it.feed with
  | stream c predicate => simp [isScanning, hfeed] at h
  | single record => simp [next, hfeed, isScanning]
  | closed => simp [next, hfeed, isScanning]

/-- A next call on a scan of records gets a record, or ends the scan and closes the cursor. -/
theorem next_ofRecords (h : it.feed = .stream (ofRecords rs) predicate) :
    (∃ r rs', it.next.item = some (.ok r) ∧
        it.next.results.feed = .stream (ofRecords rs') predicate ∧
        it.next.calls.count .close = 0) ∨
      it.next.item = none ∧ it.next.results.feed = .closed ∧ it.next.calls.count .close = 1 := by
  induction rs generalizing it with
  | nil =>
    rw [next_ofRecords_nil h]
    exact .inr ⟨rfl, rfl, rfl⟩
  | cons r rs ih =>
    cases hr : wanted predicate r with
    | true =>
      rw [next_ofRecords_wanted h hr]
      exact .inl ⟨r, rs, rfl, rfl, rfl⟩
    | false =>
      rw [next_ofRecords_away h hr rfl]
      simp only [List.count_cons_of_ne (show CursorCall.pull ≠ .close by decide)]
      exact ih rfl

theorem moves_next (h : it.IsOfRecords) : Moves it it.next.results it.next.calls := by
  cases hscan : it.isScanning with
  | false =>
    obtain ⟨hresults, hcalls⟩ := next_of_not_scanning hscan
    rw [hcalls]
    exact moves_of_not_scanning hscan hresults
  | true =>
    obtain ⟨rs, predicate, hfeed⟩ := exists_feed_of_scanning hscan h
    obtain ⟨r, rs', _, hrest, hcalls⟩ | ⟨_, hclosed, hcalls⟩ := next_ofRecords hfeed
    · refine ⟨?_, fun _ => hscan, by simp [isScanning, hrest, hcalls]⟩
      intro c p hc
      rw [hrest] at hc
      cases hc
      exact ⟨rs', rfl⟩
    · exact moves_of_ended hscan (by simp [isScanning, hclosed]) hcalls

theorem drainUpTo_of_not_scanning (fuel : Nat) (h : it.isScanning = false) :
    (it.drainUpTo fuel).2.1.isScanning = false ∧ (it.drainUpTo fuel).2.2 = [] := by
  induction fuel generalizing it with
  | zero => exact ⟨h, rfl⟩
  | succ fuel ih =>
    obtain ⟨hresults, hcalls⟩ := next_of_not_scanning h
    cases hitem : it.next.item with
    | none =>
      rw [drainUpTo_of_none hitem]
      exact ⟨hresults, hcalls⟩
    | some item =>
      obtain ⟨hlast, hnone⟩ := ih hresults
      rw [drainUpTo_of_some hitem, hcalls, hnone]
      exact ⟨hlast, rfl⟩

theorem isScanning_drain (h : it.IsOfRecords) :
    it.drain.2.1.isScanning = false ∧
      it.drain.2.2.count .close = if it.isScanning then 1 else 0 := by
  cases hscan : it.isScanning with
  | false =>
    obtain ⟨hlast, hcalls⟩ := drainUpTo_of_not_scanning (it.bound + 1) hscan
    exact ⟨hlast, by rw [drain, hcalls]; rfl⟩
  | true =>
    obtain ⟨rs, predicate, hfeed⟩ := exists_feed_of_scanning hscan h
    have hbound : rs.length ≤ it.bound := by
      simp [bound, hfeed, ofRecords, Cursor.pending]
    rw [drain, drainUpTo_ofRecords hfeed hbound]
    refine ⟨rfl, ?_⟩
    simp [List.count_append, List.count_replicate]

theorem isScanning_close (it : ResultIterator) :
    it.close.1.isScanning = false ∧
      it.close.2.count .close = if it.isScanning then 1 else 0 := by
  cases hfeed : it.feed <;> simp [close, isScanning, hfeed]

end ResultIterator

open ResultIterator (Moves)

namespace Session

variable {s : Session MemoryStore} {name : String} {names : Finset String} {spare : Nat}
variable {it it' : ResultIterator} {calls : List CursorCall}

/-- The names under which scans are open after a call, by what its caller sees. A scan is open from
the call that gives its results. It ends when a next call gets no record, when it is drained, closed
or dropped, and when other results take its name. -/
def openAfter (s : Session MemoryStore) (names : Finset String) : SessionCall → Finset String
  | .find name q =>
    match (s.find name q).1 with
    | .ok results => if results.isScanning then insert name names else names.erase name
    | .error _ => names
  | .next name =>
    match (s.next recordStore name).bind (·.1.item) with
    | some (.ok _) => names
    | _ => names.erase name
  | .drain name | .close name | .drop name => names.erase name
  | .put _ | .get _ | .use _ | .explain .. => names

/-- The names under which scans are open after one call and the other. -/
def openScans (s : Session MemoryStore) (names : Finset String) : List SessionCall → Finset String
  | [] => names
  | call :: rest => (s.step call).openScans (s.openAfter names call) rest

/-- The call gives the results of a scan. -/
def opensScan (s : Session MemoryStore) : SessionCall → Bool
  | .find name q =>
    match (s.find name q).1 with
    | .ok results => results.isScanning
    | .error _ => false
  | _ => false

/-- The number of calls that give the results of a scan. -/
def scansOpened (s : Session MemoryStore) : List SessionCall → Nat
  | [] => 0
  | call :: rest => (s.opensScan call).toNat + (s.step call).scansOpened rest

/-! What the store keeps count of. -/

theorem openCursors_note (s : Session MemoryStore) (calls : List CursorCall) :
    (s.note recordStore calls).store.openCursors =
      s.store.openCursors - calls.count .close := by
  induction calls generalizing s with
  | nil => simp [note]
  | cons call calls ih =>
    have hrest := ih { s with store := recordStore.noted call s.store }
    rw [note] at hrest ⊢
    rw [List.foldl_cons, hrest]
    cases call with
    | pull => simp [recordStore]
    | close =>
      simp only [recordStore, MemoryStore.release, List.count_cons_self]
      omega

theorem queriesIssued_note (s : Session MemoryStore) (calls : List CursorCall) :
    (s.note recordStore calls).store.queriesIssued = s.store.queriesIssued := by
  induction calls generalizing s with
  | nil => rfl
  | cons call calls ih =>
    have hrest := ih { s with store := recordStore.noted call s.store }
    rw [note] at hrest ⊢
    rw [List.foldl_cons, hrest]
    cases call <;> rfl

theorem queriesIssued_drop (s : Session MemoryStore) (name : String) :
    (s.drop recordStore name).2.store.queriesIssued = s.store.queriesIssued := by
  rw [drop]
  split
  · rw [queriesIssued_note]
  · rfl

theorem results?_drop : (s.drop recordStore name).2.results? name = none := by
  rw [drop]
  split
  · rw [results?_note]
    simp [results?, others, List.find?_filter]
  · next h => exact h

/-- A call that finds records refuses the query, fetches one record, or opens a scan. -/
theorem find_eq (s : Session MemoryStore) (name : String) (q : Query) :
    (∃ e, s.find name q = (.error e, s)) ∨
    (∃ record, s.find name q = (.ok (.ofFetch record),
      (s.drop recordStore name).2.keep name (.ofFetch record))) ∨
    ∃ request rs predicate, s.find name q = (.ok (.ofCursor (ofRecords rs) predicate),
      (drop recordStore { s with store := (s.store.query request).2 } name).2.keep name
        (.ofCursor (ofRecords rs) predicate)) := by
  have hfind : s.find name q = openWith recordStore s name
      (Engine.runChecked recordStore (q.plan s.engine) s.store) := by
    cases q <;> rfl
  rw [hfind]
  cases q.plan s.engine with
  | error e => exact .inl ⟨e, rfl⟩
  | ok p =>
    cases p with
    | lookup key => exact .inr (.inl ⟨s.store.find? key, rfl⟩)
    | scan st => exact .inr (.inr ⟨st.request, s.store.matching st.request, st.predicate, rfl⟩)

/-- The scans that are open are those of the names, and each has one cursor of the store. Besides,
the store has some cursors that no results hold yet. -/
structure Accounts (s : Session MemoryStore) (names : Finset String) (spare : Nat) : Prop where
  mem_iff : ∀ name, name ∈ names ↔ ∃ it, s.results? name = some it ∧ it.isScanning = true
  isOfRecords : ∀ name it, s.results? name = some it → it.IsOfRecords
  openCursors_eq : s.store.openCursors = names.card + spare

namespace Accounts

theorem isScanning_iff (h : s.Accounts names spare) (hit : s.results? name = some it) :
    name ∈ names ↔ it.isScanning = true := by
  rw [h.mem_iff]
  simp [hit]

/-- Without the results of a name, or with others in their place, the account is right when the
cursor is paid for. -/
theorem of_others {s' : Session MemoryStore} {names' : Finset String} {spare' : Nat}
    (h : s.Accounts names spare) (name : String)
    (hothers : ∀ other, other ≠ name → s'.results? other = s.results? other)
    (hnames : ∀ other, other ≠ name → (other ∈ names' ↔ other ∈ names))
    (hname : name ∈ names' ↔ ∃ it, s'.results? name = some it ∧ it.isScanning = true)
    (hrecords : ∀ it, s'.results? name = some it → it.IsOfRecords)
    (hcount : s'.store.openCursors = names'.card + spare') : s'.Accounts names' spare' where
  mem_iff := by
    intro other
    by_cases hne : other = name
    · rw [hne]
      exact hname
    · rw [hnames other hne, hothers other hne]
      exact h.mem_iff other
  isOfRecords := by
    intro other it hit
    by_cases hne : other = name
    · rw [hne] at hit
      exact hrecords it hit
    · rw [hothers other hne] at hit
      exact h.isOfRecords other it hit
  openCursors_eq := hcount

theorem card_erase (names : Finset String) (name : String) :
    ((names.erase name).card : Int) = names.card - if name ∈ names then 1 else 0 := by
  by_cases h : name ∈ names
  · have hpos := Finset.card_pos.2 ⟨name, h⟩
    rw [Finset.card_erase_of_mem h, if_pos h]
    omega
  · rw [Finset.erase_eq_of_notMem h, if_neg h]
    omega

/-- Results that move on keep their cursor, or close it. -/
theorem moved (h : s.Accounts names spare) (hit : s.results? name = some it)
    (hmoves : Moves it it' calls) :
    (note recordStore (s.keep name it') calls).Accounts
      (if it'.isScanning then names else names.erase name) spare := by
  have hmem := h.isScanning_iff hit
  refine h.of_others name ?_ ?_ ?_ ?_ ?_
  · intro other hne
    rw [results?_note, results?_keep_of_ne hne.symm]
  · intro other hne
    split
    · rfl
    · simp [hne]
  · rw [results?_note, results?_keep]
    cases hscan : it'.isScanning with
    | true => simp [hmem, hmoves.isScanning hscan, hscan]
    | false => simp [hscan]
  · intro it'' hit''
    rw [results?_note, results?_keep, Option.some.injEq] at hit''
    rw [← hit'']
    exact hmoves.isOfRecords
  · have hcount := hmoves.count_close
    have hstore : (s.keep name it').store = s.store := rfl
    rw [openCursors_note, hstore, h.openCursors_eq, hcount]
    cases hscan : it'.isScanning with
    | true => simp
    | false =>
      simp only [Bool.false_eq_true, if_false, Bool.not_false, Bool.and_true, card_erase, hmem]
      split
      · simp
        omega
      · simp

theorem drop (h : s.Accounts names spare) (name : String) :
    (s.drop recordStore name).2.Accounts (names.erase name) spare := by
  refine h.of_others name ?_ ?_ ?_ ?_ ?_
  · intro other hne
    exact results?_drop_of_ne hne.symm
  · intro other hne
    simp [hne]
  · simp [results?_drop]
  · simp [results?_drop]
  · rw [card_erase, Session.drop]
    cases hit : s.results? name with
    | none =>
      have hmem : name ∉ names := by simp [h.mem_iff, hit]
      simp [hmem, h.openCursors_eq]
    | some it =>
      obtain ⟨_, hclose⟩ := it.isScanning_close
      simp only [openCursors_note, hclose, h.openCursors_eq, h.isScanning_iff hit]
      split
      · simp
        omega
      · simp

/-- New results under a name that is free, with the cursor that was spared for them. -/
theorem keep (h : s.Accounts names it.isScanning.toNat) (hfree : s.results? name = none)
    (hrecords : it.IsOfRecords) :
    (s.keep name it).Accounts (if it.isScanning then insert name names else names) 0 := by
  have hmem : name ∉ names := by simp [h.mem_iff, hfree]
  refine h.of_others name ?_ ?_ ?_ ?_ ?_
  · intro other hne
    exact results?_keep_of_ne hne.symm
  · intro other hne
    split
    · simp [hne]
    · rfl
  · rw [results?_keep]
    cases hscan : it.isScanning with
    | true => simp [hscan]
    | false => simp [hscan, hmem]
  · intro it' hit'
    rw [results?_keep, Option.some.injEq] at hit'
    rw [← hit']
    exact hrecords
  · have hstore : (s.keep name it).store = s.store := rfl
    rw [hstore, h.openCursors_eq]
    cases hscan : it.isScanning with
    | true => simp [Finset.card_insert_of_notMem hmem]
    | false => simp

/-- Another store with the same count, or with cursors that nobody holds yet. -/
theorem store (h : s.Accounts names 0) (store : MemoryStore)
    (hstore : store.openCursors = s.store.openCursors + spare) :
    Session.Accounts { s with store } names spare where
  mem_iff := h.mem_iff
  isOfRecords := h.isOfRecords
  openCursors_eq := by
    rw [hstore, h.openCursors_eq]
    simp

theorem find (h : s.Accounts names 0) (name : String) (q : Query) :
    (s.find name q).2.Accounts (s.openAfter names (.find name q)) 0 := by
  obtain ⟨e, hfind⟩ | ⟨record, hfind⟩ | ⟨request, rs, predicate, hfind⟩ := find_eq s name q
  · simp only [openAfter, hfind]
    exact h
  · simp only [openAfter, hfind]
    exact (h.drop name).keep results?_drop (ResultIterator.isOfRecords_of_not_scanning rfl)
  · have hquery : Session.Accounts { s with store := (s.store.query request).2 } names 1 :=
      h.store (s.store.query request).2 rfl
    have hrecords : (ResultIterator.ofCursor (ofRecords rs) predicate).IsOfRecords := by
      intro c p hc
      cases hc
      exact ⟨rs, rfl⟩
    have hkept := (hquery.drop name).keep results?_drop hrecords
    have hinsert : insert name (names.erase name) = insert name names := by
      ext other
      by_cases hne : other = name <;> simp [hne]
    simp only [openAfter, hfind]
    have hscan : (ResultIterator.ofCursor (ofRecords rs) predicate).isScanning = true := rfl
    rw [hscan, if_pos rfl, hinsert] at hkept
    simpa only [hscan, if_true] using hkept

theorem erase_of_not_scanning (h : s.Accounts names spare) (hit : s.results? name = some it)
    (hscan : it.isScanning = false) : names.erase name = names := by
  apply Finset.erase_eq_of_notMem
  simp [h.isScanning_iff hit, hscan]

theorem erase_of_none (h : s.Accounts names spare) (hnone : s.results? name = none) :
    names.erase name = names := by
  apply Finset.erase_eq_of_notMem
  simp [h.mem_iff, hnone]

theorem next (h : s.Accounts names 0) (name : String) :
    (s.step (.next name)).Accounts (s.openAfter names (.next name)) 0 := by
  cases hit : s.results? name with
  | none =>
    simp only [step, openAfter, Session.next, hit, Option.map_none, Option.bind_none,
      Option.getD_none, h.erase_of_none hit]
    exact h
  | some it =>
    have hmoved := h.moved hit (ResultIterator.moves_next (h.isOfRecords name it hit))
    have hnames : s.openAfter names (.next name) =
        if it.next.results.isScanning then names else names.erase name := by
      cases hscan : it.isScanning with
      | false =>
        simp only [openAfter, h.erase_of_not_scanning hit hscan, ite_self]
        split <;> rfl
      | true =>
        obtain ⟨rs, predicate, hfeed⟩ :=
          ResultIterator.exists_feed_of_scanning hscan (h.isOfRecords name it hit)
        simp only [openAfter, Session.next, hit, Option.map_some, Option.bind_some]
        obtain ⟨r, rs', hitem, hrest, _⟩ | ⟨hitem, hclosed, _⟩ :=
          ResultIterator.next_ofRecords hfeed
        · simp [hitem, hrest, ResultIterator.isScanning]
        · simp [hitem, hclosed, ResultIterator.isScanning]
    rw [hnames]
    simpa only [step, Session.next, hit, Option.map_some, Option.getD_some] using hmoved

/-- A call that ends the results of a name. -/
theorem ended (h : s.Accounts names spare) (name : String)
    (move : ResultIterator → ResultIterator × List CursorCall)
    (hmove : ∀ it, it.IsOfRecords → (move it).1.isScanning = false ∧
      (move it).2.count .close = if it.isScanning then 1 else 0) :
    (((s.results? name).map fun it =>
      note recordStore (s.keep name (move it).1) (move it).2).getD s).Accounts
        (names.erase name) spare := by
  cases hit : s.results? name with
  | none =>
    rw [h.erase_of_none hit]
    exact h
  | some it =>
    obtain ⟨hscan, hcount⟩ := hmove it (h.isOfRecords name it hit)
    have hmoves : Moves it (move it).1 (move it).2 :=
      ⟨ResultIterator.isOfRecords_of_not_scanning hscan, by simp [hscan], by simp [hscan, hcount]⟩
    simpa [hscan] using h.moved hit hmoves

/-- One call keeps the account. -/
theorem step (h : s.Accounts names 0) (call : SessionCall) :
    (s.step call).Accounts (s.openAfter names call) 0 := by
  cases call with
  | put r => exact h.store (s.store.put r) (by simp [MemoryStore.put])
  | get key => exact h
  | use e => exact ⟨h.mem_iff, h.isOfRecords, h.openCursors_eq⟩
  | find name q => exact h.find name q
  | explain scope filter qs => exact h
  | next name => exact h.next name
  | drain name =>
    simp only [Session.step, drain, Option.map_map]
    exact h.ended name (fun it => it.drain.2) fun _ hit => ResultIterator.isScanning_drain hit
  | close name =>
    simp only [Session.step, close, Option.map_map]
    exact h.ended name ResultIterator.close fun it _ => it.isScanning_close
  | drop name => exact h.drop name

theorem run (h : s.Accounts names 0) (calls : List SessionCall) :
    (s.run calls).Accounts (s.openScans names calls) 0 := by
  induction calls generalizing s names with
  | nil => exact h
  | cons call calls ih => exact ih (h.step call)

end Accounts

theorem queriesIssued_moved (s : Session MemoryStore) (name : String)
    (move : ResultIterator → ResultIterator × List CursorCall) :
    (((s.results? name).map fun it =>
      note recordStore (s.keep name (move it).1) (move it).2).getD s).store.queriesIssued =
        s.store.queriesIssued := by
  cases s.results? name with
  | none => rfl
  | some it => exact queriesIssued_note _ _

/-- The store counts a query for each call that opens a scan, and for no other. -/
theorem queriesIssued_step (s : Session MemoryStore) (call : SessionCall) :
    (s.step call).store.queriesIssued =
      s.store.queriesIssued + (s.opensScan call).toNat := by
  cases call with
  | put r => rfl
  | get key => rfl
  | use e => rfl
  | find name q =>
    simp only [step, opensScan]
    obtain ⟨e, hfind⟩ | ⟨record, hfind⟩ | ⟨request, rs, predicate, hfind⟩ := find_eq s name q
    · rw [hfind]
      rfl
    · rw [hfind]
      exact queriesIssued_drop s name
    · rw [hfind]
      exact queriesIssued_drop { s with store := (s.store.query request).2 } name
  | explain scope filter qs => rfl
  | next name =>
    simp only [step, next, Option.map_map]
    exact queriesIssued_moved s name fun it => (it.next.results, it.next.calls)
  | drain name =>
    simp only [step, drain, Option.map_map]
    exact queriesIssued_moved s name fun it => it.drain.2
  | close name =>
    simp only [step, close, Option.map_map]
    exact queriesIssued_moved s name ResultIterator.close
  | drop name => exact queriesIssued_drop s name

theorem queriesIssued_run (s : Session MemoryStore) (calls : List SessionCall) :
    (s.run calls).store.queriesIssued = s.store.queriesIssued + s.scansOpened calls := by
  induction calls generalizing s with
  | nil => rfl
  | cons call calls ih =>
    have hrest := ih (s.step call)
    rw [queriesIssued_step] at hrest
    rw [scansOpened, ← Nat.add_assoc]
    exact hrest

/-- No cursor is lost, and none is closed twice. After any calls on a store that nobody has used
before, with any engines on it, the store counts one open cursor for each scan that is open. So the
count is never below zero, and it is zero when all results have ended. The cursors of the open scans
are not closed, and the queries that the store has counted are the scans that were opened. -/
theorem openCursors_run (records : List Record) (e : Engine) (calls : List SessionCall) :
    let start : Session MemoryStore := { store := { records }, engine := e }
    let s := start.run calls
    let names := start.openScans ∅ calls
    s.store.openCursors = names.card ∧
      (∀ name, name ∈ names ↔ ∃ it, s.results? name = some it ∧ it.isScanning = true) ∧
      (∀ name it c predicate, s.results? name = some it → it.feed = .stream c predicate →
        c.closed = false) ∧
      0 ≤ s.store.openCursors ∧
      ((∀ name it, s.results? name = some it → it.isClosed = true) → s.store.openCursors = 0) ∧
      s.store.queriesIssued = start.scansOpened calls := by
  intro start s names
  have hstart : start.Accounts ∅ 0 := ⟨by simp [start, results?], by simp [start, results?], rfl⟩
  have haccounts : s.Accounts names 0 := hstart.run calls
  have hcount : s.store.openCursors = names.card := by simpa using haccounts.openCursors_eq
  refine ⟨hcount, haccounts.mem_iff, ?_, by omega, ?_, ?_⟩
  · intro name it c predicate hit hfeed
    obtain ⟨rs, rfl⟩ := haccounts.isOfRecords name it hit c predicate hfeed
    rfl
  · intro hended
    have hnone : names = ∅ := by
      apply Finset.eq_empty_of_forall_notMem
      intro name hname
      obtain ⟨it, hit, hscan⟩ := (haccounts.mem_iff name).1 hname
      rw [ResultIterator.not_scanning_of_isClosed (hended name it hit)] at hscan
      exact Bool.false_ne_true hscan
    rw [hcount, hnone]
    rfl
  · exact (queriesIssued_run start calls).trans (Nat.zero_add _)

end Session

end IndexPlanner

import IndexPlanner.Proofs.Engine.Advance

/-! Histories of results under the calls of their callers, and what is to be expected of them. One
lemma for each call says that it continues an expected history. -/
namespace IndexPlanner

/-- What callers do to results. -/
inductive ResultCall where
  | next
  | close
  deriving DecidableEq, Repr

/-- The next calls before the first close. -/
def ResultCall.asked (calls : List ResultCall) : Nat := (calls.takeWhile (· == .next)).length

/-- What `n` next calls get of items: one each, as long as there are some. -/
def handedOut {α : Type} (items : List α) (n : Nat) : List (Option α) :=
  (List.range n).map (items[·]?)

theorem handedOut_nil {α : Type} (n : Nat) : handedOut ([] : List α) n = List.replicate n none := by
  rw [handedOut, List.eq_replicate_iff, List.length_map, List.length_range]
  simp

theorem handedOut_cons {α : Type} (item : α) (items : List α) (n : Nat) :
    handedOut (item :: items) (n + 1) = some item :: handedOut items n := by
  rw [handedOut, List.range_succ_eq_map, List.map_cons, List.map_map]
  rfl

/-- What calls lead to: an item for each next call, the results afterwards, and what was done to
the cursor. -/
structure History where
  items : List (Option (Except StoreError Record))
  results : ResultIterator
  calls : List CursorCall

namespace ResultIterator

/-- The history of the results under one call after the other. -/
def live (it : ResultIterator) : List ResultCall → History
  | [] => ⟨[], it, []⟩
  | .next :: rest =>
    let h := it.next.results.live rest
    ⟨it.next.item :: h.items, h.results, it.next.calls ++ h.calls⟩
  | .close :: rest =>
    let h := it.close.1.live rest
    ⟨h.items, h.results, it.close.2 ++ h.calls⟩

end ResultIterator

/-- What was done to the cursor when the results are dropped in the end. -/
def History.dropped (h : History) : List CursorCall := h.calls ++ h.results.close.2

open ResultIterator (wanted)
open ResultCall (asked)

/-- A history under these calls, in which the cursor gave the answers `pulled`, of results that had
already turned `before` records away. -/
structure Lived (wanted : Record → Bool) (before : Nat) (calls : List ResultCall)
    (pulled : List Pull) (h : History) : Prop where
  /-- The items are the wanted records and the failure among the answers, in their order; there is
  none for the next calls after that. -/
  items : h.items = handedOut (pulled.filterMap (Pull.item? wanted)) (calls.count .next)
  /-- The cursor is not pulled after a failure or its end. -/
  records : ∀ a ∈ pulled.dropLast, a.isRecord = true
  /-- The cursor is not pulled for nothing. -/
  last : ∀ a ∈ pulled.getLast?, a.isTurnedAway wanted = false
  /-- No answer serves a next call after a close. -/
  served_le : pulled.countP (!·.isTurnedAway wanted) ≤ asked calls
  /-- Before a failure or the end each next call is served. -/
  served_eq : (∀ a ∈ pulled, a.isRecord = true) →
    pulled.countP (!·.isTurnedAway wanted) = asked calls
  skipped : h.results.skipped = before + pulled.countP (·.isTurnedAway wanted)
  isClosed_iff : h.results.isClosed = true ↔ .close ∈ calls ∨ ∃ a ∈ pulled, a.isRecord = false
  calls_eq : h.calls =
    List.replicate pulled.length .pull ++ if h.results.isClosed then [.close] else []
  /-- Over the whole life the cursor is closed once, and after all pulls. -/
  dropped_eq : h.dropped = List.replicate pulled.length .pull ++ [.close]

namespace ResultIterator

theorem close_of_closed {it : ResultIterator} (h : it.feed = .closed) : it.close = (it, []) := by
  cases it
  cases h
  rfl

/-- Closed results stay as they are. -/
theorem live_closed {it : ResultIterator} (h : it.feed = .closed) (calls : List ResultCall) :
    it.live calls = ⟨List.replicate (calls.count .next) none, it, []⟩ := by
  induction calls with
  | nil => rfl
  | cons call rest ih =>
    cases call with
    | next =>
      simp only [live, next_closed h, ih, List.count_cons_self, List.replicate_succ,
        List.append_nil]
    | close =>
      rw [List.count_cons_of_ne (by decide)]
      simp only [live, close_of_closed h, ih, List.append_nil]

end ResultIterator

namespace Lived

variable {accept : Record → Bool} {before : Nat} {rest : List ResultCall}
variable {away : List Pull}

/-! Answers that are turned away serve nobody. -/

theorem filterMap_away (h : ∀ a ∈ away, a.isTurnedAway accept = true) :
    away.filterMap (Pull.item? accept) = [] :=
  List.filterMap_eq_nil_iff.2 fun a ha => Pull.item?_of_isTurnedAway (h a ha)

theorem countP_away (haway : ∀ a ∈ away, a.isTurnedAway accept = true) {a : Pull}
    (ha : a.isTurnedAway accept = false) (pulled : List Pull) :
    (away ++ a :: pulled).countP (·.isTurnedAway accept) =
      away.length + pulled.countP (·.isTurnedAway accept) := by
  rw [List.countP_append, List.countP_eq_length.2 haway, List.countP_cons_of_neg (by simp [ha])]

theorem countP_served (haway : ∀ a ∈ away, a.isTurnedAway accept = true) {a : Pull}
    (ha : a.isTurnedAway accept = false) (pulled : List Pull) :
    (away ++ a :: pulled).countP (!·.isTurnedAway accept) =
      pulled.countP (!·.isTurnedAway accept) + 1 := by
  have hnone : away.countP (!·.isTurnedAway accept) = 0 := by
    rw [List.countP_eq_zero]
    intro b hb
    simp [haway b hb]
  rw [List.countP_append, hnone, List.countP_cons_of_pos (by simp [ha]), Nat.zero_add]

theorem exists_stop_iff {r : Record} {pulled : List Pull}
    (h : ∀ a ∈ away, a.isTurnedAway accept = true) :
    (∃ a ∈ away ++ .record r :: pulled, a.isRecord = false) ↔
      ∃ a ∈ pulled, a.isRecord = false := by
  constructor
  · rintro ⟨a, ha, hstop⟩
    rw [List.mem_append, List.mem_cons] at ha
    rcases ha with ha | rfl | ha
    · rw [Pull.isRecord_of_isTurnedAway (h a ha)] at hstop
      cases hstop
    · cases hstop
    · exact ⟨a, ha, hstop⟩
  · rintro ⟨a, ha, hstop⟩
    exact ⟨a, List.mem_append_right away (.tail _ ha), hstop⟩

/-! A wanted record after records that are turned away. -/

theorem isRecord_of_mem_dropLast {r : Record} {pulled : List Pull}
    (haway : ∀ a ∈ away, a.isTurnedAway accept = true)
    (h : ∀ a ∈ pulled.dropLast, a.isRecord = true) :
    ∀ a ∈ (away ++ .record r :: pulled).dropLast, a.isRecord = true := by
  intro a ha
  rw [List.dropLast_append_cons, List.mem_append] at ha
  rcases ha with ha | ha
  · exact Pull.isRecord_of_isTurnedAway (haway a ha)
  · cases pulled with
    | nil => simp at ha
    | cons b pulled =>
      rw [List.dropLast_cons_cons, List.mem_cons] at ha
      rcases ha with rfl | ha
      · rfl
      · exact h a ha

theorem not_away_of_mem_getLast? {r : Record} {pulled : List Pull}
    (hr : (Pull.record r).isTurnedAway accept = false)
    (h : ∀ a ∈ pulled.getLast?, a.isTurnedAway accept = false) :
    ∀ a ∈ (away ++ .record r :: pulled).getLast?, a.isTurnedAway accept = false := by
  intro a ha
  cases pulled with
  | nil =>
    rw [List.getLast?_concat, Option.mem_some_iff] at ha
    subst ha
    exact hr
  | cons b pulled =>
    rw [List.getLast?_append, List.getLast?_cons_cons] at ha
    exact h a (by simpa using ha)

/-! The histories of one call before others. -/

theorem nil {it : ResultIterator} {c : Cursor} {predicate : Option Predicate}
    (h : it.feed = .stream c predicate) : Lived accept it.skipped [] [] (it.live []) where
  items := rfl
  records := by simp
  last := by simp
  served_le := Nat.zero_le _
  served_eq := fun _ => rfl
  skipped := rfl
  isClosed_iff := by simp [ResultIterator.live, ResultIterator.isClosed, h]
  calls_eq := by simp [ResultIterator.live, ResultIterator.isClosed, h]
  dropped_eq := by simp [History.dropped, ResultIterator.live, ResultIterator.close, h]

theorem close {it : ResultIterator} {c : Cursor} {predicate : Option Predicate}
    (h : it.feed = .stream c predicate) :
    Lived accept it.skipped (.close :: rest) [] (it.live (.close :: rest)) := by
  have hclose : it.close = ({ it with feed := .closed }, [.close]) := by
    simp only [ResultIterator.close, h]
  have hlive : it.live (.close :: rest) =
      ⟨List.replicate (rest.count .next) none, { it with feed := .closed }, [.close]⟩ := by
    simp only [ResultIterator.live, hclose, ResultIterator.live_closed, List.append_nil]
  rw [hlive]
  exact {
    items := by rw [List.filterMap_nil, handedOut_nil, List.count_cons_of_ne (by decide)]
    records := by simp
    last := by simp
    served_le := Nat.zero_le _
    served_eq := fun _ => rfl
    skipped := rfl
    isClosed_iff := by simp [ResultIterator.isClosed]
    calls_eq := rfl
    dropped_eq := rfl }

/-- The answers end with a failure or with the end of the cursor. -/
theorem next_stop {it : ResultIterator} {a : Pull}
    (haway : ∀ b ∈ away, b.isTurnedAway accept = true) (ha : a.isRecord = false)
    (hnext : it.next = ⟨a.item? accept, it.ended away.length,
      List.replicate (away.length + 1) .pull ++ [.close]⟩) :
    Lived accept it.skipped (.next :: rest) (away ++ [a]) (it.live (.next :: rest)) := by
  have hturned : a.isTurnedAway accept = false := Pull.isTurnedAway_of_not_isRecord ha
  have hended : (it.ended away.length).feed = .closed := rfl
  have hlive : it.live (.next :: rest) =
      ⟨a.item? accept :: List.replicate (rest.count .next) none, it.ended away.length,
        List.replicate (away.length + 1) .pull ++ [.close]⟩ := by
    simp only [ResultIterator.live, hnext, ResultIterator.live_closed hended, List.append_nil]
  rw [hlive]
  exact {
    items := by
      rw [List.filterMap_append, filterMap_away haway, List.nil_append, List.count_cons_self]
      cases h : a.item? accept with
      | none => rw [List.filterMap_cons_none h, List.filterMap_nil, handedOut_nil]; rfl
      | some item =>
        rw [List.filterMap_cons_some h, List.filterMap_nil, handedOut_cons, handedOut_nil]
    records := by
      intro b hb
      rw [List.dropLast_concat] at hb
      exact Pull.isRecord_of_isTurnedAway (haway b hb)
    last := by
      intro b hb
      rw [List.getLast?_concat, Option.mem_some_iff] at hb
      subst hb
      exact hturned
    served_le := by
      rw [countP_served haway hturned]
      simp [asked]
    served_eq := by
      intro h
      have hrecord := h a (List.mem_append_right away (.head []))
      rw [ha] at hrecord
      exact absurd hrecord Bool.false_ne_true
    skipped := by
      rw [countP_away haway hturned]
      rfl
    isClosed_iff := by
      simp [ResultIterator.isClosed, ResultIterator.ended, ha]
    calls_eq := by simp [ResultIterator.isClosed, ResultIterator.ended]
    dropped_eq := by simp [History.dropped, ResultIterator.close, ResultIterator.ended] }

/-- A wanted record is served, and life goes on. -/
theorem next_record {it it' : ResultIterator} {r : Record} {pulled : List Pull}
    (haway : ∀ b ∈ away, b.isTurnedAway accept = true) (hr : accept r = true)
    (hnext : it.next = ⟨some (.ok r), it', List.replicate (away.length + 1) .pull⟩)
    (hskipped : it'.skipped = it.skipped + away.length)
    (h : Lived accept it'.skipped rest pulled (it'.live rest)) :
    Lived accept it.skipped (.next :: rest) (away ++ .record r :: pulled)
      (it.live (.next :: rest)) := by
  have hturned : (Pull.record r).isTurnedAway accept = false := by
    simp [Pull.isTurnedAway, hr]
  have hitem : (Pull.record r).item? accept = some (.ok r) := by
    simp [Pull.item?, hr]
  have hlive : it.live (.next :: rest) =
      ⟨some (.ok r) :: (it'.live rest).items, (it'.live rest).results,
        List.replicate (away.length + 1) .pull ++ (it'.live rest).calls⟩ := by
    simp only [ResultIterator.live, hnext]
  have hasked : asked (.next :: rest) = asked rest + 1 := by simp [asked]
  rw [hlive]
  exact {
    items := by
      rw [List.filterMap_append, filterMap_away haway, List.nil_append,
        List.filterMap_cons_some hitem, List.count_cons_self, handedOut_cons, h.items]
    records := isRecord_of_mem_dropLast haway h.records
    last := not_away_of_mem_getLast? hturned h.last
    served_le := by
      rw [countP_served haway hturned, hasked]
      exact Nat.succ_le_succ h.served_le
    served_eq := by
      intro hall
      have heq := h.served_eq fun a ha => hall a (List.mem_append_right away (.tail _ ha))
      rw [countP_served haway hturned, hasked, heq]
    skipped := by
      rw [h.skipped, hskipped, countP_away haway hturned, Nat.add_assoc]
    isClosed_iff := by
      have hne : ResultCall.close ≠ .next := by decide
      rw [h.isClosed_iff, exists_stop_iff haway, List.mem_cons, or_iff_right hne]
    calls_eq := by
      rw [h.calls_eq, ← List.append_assoc, List.replicate_append_replicate, List.length_append,
        List.length_cons, Nat.add_right_comm, Nat.add_assoc]
    dropped_eq := by
      have hdropped := h.dropped_eq
      rw [History.dropped] at hdropped ⊢
      rw [List.append_assoc, hdropped, ← List.append_assoc, List.replicate_append_replicate,
        List.length_append, List.length_cons, Nat.add_right_comm, Nat.add_assoc] }

/-- The pulls are counted among what was done to the cursor. -/
theorem count_pull {calls : List ResultCall} {pulled : List Pull} {h : History}
    (hl : Lived accept before calls pulled h) : h.calls.count .pull = pulled.length := by
  rw [hl.calls_eq, List.count_append, List.count_replicate_self]
  split <;> simp

end Lived

end IndexPlanner

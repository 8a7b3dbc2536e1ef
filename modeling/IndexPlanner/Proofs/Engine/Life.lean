import IndexPlanner.Proofs.Engine.History

/-! The whole life of results: callers ask for the next record and close in any order, and drop the
results at the end. -/
namespace IndexPlanner

open Cursor (firstAnswers)
open ResultIterator (wanted)
open ResultCall (asked)

namespace ResultIterator

theorem exists_lived {it : ResultIterator} {c : Cursor} {predicate : Option Predicate}
    (h : it.feed = .stream c predicate) (calls : List ResultCall) :
    ∃ n, Lived (wanted predicate) it.skipped calls (firstAnswers c.answer n) (it.live calls) := by
  induction calls generalizing it c with
  | nil => exact ⟨0, .nil h⟩
  | cons call rest ih =>
    cases call with
    | close => exact ⟨0, .close h⟩
    | next =>
      obtain ⟨n, haway, hadv⟩ := next_stream h
      have hall : ∀ a ∈ firstAnswers c.answer n, a.isTurnedAway (wanted predicate) = true := by
        intro a ha
        obtain ⟨i, hi, rfl⟩ := List.mem_map.1 ha
        exact haway i (List.mem_range.1 hi)
      have hlength := Cursor.length_firstAnswers c.answer n
      cases hadv with
      | stop hstop ha =>
        refine ⟨n + 1, ?_⟩
        rw [Cursor.firstAnswers_succ]
        exact .next_stop hall hstop (by rw [ha, hlength])
      | @record r c' hr hwanted hc ha =>
        have hfeed : (⟨.stream c' predicate, it.skipped + n⟩ : ResultIterator).feed =
            .stream c' predicate := rfl
        obtain ⟨m, hm⟩ := ih hfeed
        -- The answers of this step come before those of the life that follows.
        have hsplit : firstAnswers c.answer (n + 1 + m) =
            firstAnswers c.answer n ++ .record r :: firstAnswers c'.answer m := by
          rw [Cursor.firstAnswers_add, Cursor.firstAnswers_succ, hr, List.append_assoc,
            Cursor.firstAnswers_congr fun i _ => (hc i).symm]
          rfl
        refine ⟨n + 1 + m, ?_⟩
        rw [hsplit]
        exact .next_record hall hwanted (by rw [ha, hlength]) (by rw [hlength]) hm

theorem lived_ofCursor (c : Cursor) (predicate : Option Predicate) (calls : List ResultCall) :
    Lived (wanted predicate) 0 calls
      (firstAnswers c.answer (((ofCursor c predicate).live calls).calls.count .pull))
      ((ofCursor c predicate).live calls) := by
  have hfeed : (ofCursor c predicate).feed = .stream c predicate := rfl
  obtain ⟨n, hn⟩ := exists_lived hfeed calls
  rw [hn.count_pull, Cursor.length_firstAnswers]
  exact hn

/-! Cursors without an end. -/

/-- Each next call meets finitely many answers that are turned away: as long as only records have
come and there is still a next call to serve, some answer is not turned away. -/
def Serves (accept : Record → Bool) (answer : Nat → Pull) (calls : List ResultCall) : Prop :=
  ∀ k, (∀ i < k, (answer i).isRecord = true) →
    (firstAnswers answer k).countP (!·.isTurnedAway accept) < asked calls →
      ∃ m ≥ k, (answer m).isTurnedAway accept = false

/-- Finitely many answers end the life, or serve all next calls. -/
theorem exists_enough {accept : Record → Bool} {answer : Nat → Pull} {calls : List ResultCall}
    (h : Serves accept answer calls) :
    ∃ n, (∃ i < n, (answer i).isRecord = false) ∨
      asked calls ≤ (firstAnswers answer n).countP (!·.isTurnedAway accept) := by
  -- One next call after the other is served, unless the answers stop before that.
  have hsteps : ∀ k ≤ asked calls, ∃ n, (∃ i < n, (answer i).isRecord = false) ∨
      k ≤ (firstAnswers answer n).countP (!·.isTurnedAway accept) := by
    intro k hk
    induction k with
    | zero => exact ⟨0, .inr (Nat.zero_le _)⟩
    | succ k ih =>
      obtain ⟨n, hn | hn⟩ := ih (by omega)
      · exact ⟨n, .inl hn⟩
      · by_cases hstop : ∃ i < n, (answer i).isRecord = false
        · exact ⟨n, .inl hstop⟩
        · by_cases hdone : k + 1 ≤ (firstAnswers answer n).countP (!·.isTurnedAway accept)
          · exact ⟨n, .inr hdone⟩
          · have hrecords : ∀ i < n, (answer i).isRecord = true := by
              intro i hi
              cases hrec : (answer i).isRecord with
              | true => rfl
              | false => exact absurd ⟨i, hi, hrec⟩ hstop
            obtain ⟨m, hm, hserved⟩ := h n hrecords (by omega)
            refine ⟨m + 1, .inr ?_⟩
            obtain ⟨d, rfl⟩ := Nat.exists_eq_add_of_le hm
            rw [Cursor.firstAnswers_succ, Cursor.firstAnswers_add, List.countP_append,
              List.countP_append]
            simp only [List.countP_singleton, hserved]
            simp
            omega
  exact hsteps _ (Nat.le_refl _)

end ResultIterator

namespace Lived

/-- What has been pulled is no more than what is enough. -/
theorem length_le {accept : Record → Bool} {before n m : Nat} {answer : Nat → Pull}
    {calls : List ResultCall} {h : History}
    (hl : Lived accept before calls (firstAnswers answer m) h)
    (hn : (∃ i < n, (answer i).isRecord = false) ∨
      asked calls ≤ (firstAnswers answer n).countP (!·.isTurnedAway accept)) : m ≤ n := by
  rcases Nat.lt_or_ge n m with hlt | hge
  · obtain ⟨d, rfl⟩ := Nat.exists_eq_add_of_lt hlt
    -- A further pull would come after a stop, or serve a call that nobody has made.
    exfalso
    have hrecords := hl.records
    have hlast := hl.last
    have hle := hl.served_le
    rw [Cursor.firstAnswers_succ] at hrecords hlast hle
    rw [List.dropLast_concat] at hrecords
    rcases hn with ⟨i, hi, hstop⟩ | hn
    · have hrec := hrecords (answer i)
        (List.mem_map.2 ⟨i, List.mem_range.2 (by omega), rfl⟩)
      rw [hstop] at hrec
      cases hrec
    · have hserved := hlast (answer (n + d)) (by rw [List.getLast?_concat]; rfl)
      rw [List.countP_append, Cursor.firstAnswers_add, List.countP_append,
        List.countP_singleton, hserved] at hle
      simp at hle
      omega
  · exact hge

end Lived

namespace ResultIterator

/-- Results of a fetch never touch a cursor. -/
theorem live_ofFetch (record : Option Record) (calls : List ResultCall) :
    ((ofFetch record).live calls).items =
        handedOut (if calls.head? = some .next then record.toList.map .ok else [])
          (calls.count .next) ∧
      ((ofFetch record).live calls).dropped = [] ∧
      ((ofFetch record).live calls).results.skipped = 0 ∧
      (((ofFetch record).live calls).results.isClosed = true ↔ calls ≠ []) := by
  have hfeed : ({ ofFetch record with feed := .closed } : ResultIterator).feed = .closed := rfl
  have hclosed := live_closed hfeed
  match calls with
  | [] => simp [live, History.dropped, ofFetch, close, isClosed, handedOut]
  | .close :: rest =>
    have hclose : (ofFetch record).close = ({ ofFetch record with feed := .closed }, []) := rfl
    rw [if_neg (by simp), handedOut_nil, List.count_cons_of_ne (by decide)]
    simp only [live, hclose, hclosed]
    simp [History.dropped, close, isClosed, ofFetch]
  | .next :: rest =>
    have hnext : (ofFetch record).next =
        ⟨record.map .ok, { ofFetch record with feed := .closed }, []⟩ := rfl
    rw [if_pos (by simp), List.count_cons_self]
    simp only [live, hnext, hclosed]
    refine ⟨?_, rfl, rfl, by simp [isClosed]⟩
    cases record with
    | none => rw [Option.toList_none, List.map_nil, handedOut_nil]; rfl
    | some r =>
      rw [Option.toList_some, List.map_singleton, handedOut_cons, handedOut_nil]
      rfl

/-- The life cycle of results. Whatever a cursor answers, and however callers mix their calls, the
items are those of the answers that were pulled, the cursor is pulled as little as possible, and it
is closed once. This goes for endless cursors, too, if some answer serves each next call. A fetched
record comes once at most. -/
theorem life_cycle (predicate : Option Predicate) (calls : List ResultCall) :
    (∀ c : Cursor, Lived (wanted predicate) 0 calls
      (firstAnswers c.answer (((ofCursor c predicate).live calls).calls.count .pull))
      ((ofCursor c predicate).live calls)) ∧
    (∀ answer : Nat → Pull, Serves (wanted predicate) answer calls →
      ∃ n, ∀ c : Cursor, (∀ i < n, c.answer i = answer i) →
        Lived (wanted predicate) 0 calls
          (firstAnswers answer (((ofCursor c predicate).live calls).calls.count .pull))
          ((ofCursor c predicate).live calls)) ∧
    ∀ record : Option Record,
      ((ofFetch record).live calls).items =
          handedOut (if calls.head? = some .next then record.toList.map .ok else [])
            (calls.count .next) ∧
        ((ofFetch record).live calls).dropped = [] ∧
        ((ofFetch record).live calls).results.skipped = 0 ∧
        (((ofFetch record).live calls).results.isClosed = true ↔ calls ≠ []) := by
  refine ⟨fun c => lived_ofCursor c predicate calls, ?_, fun record => live_ofFetch record calls⟩
  intro answer hserves
  obtain ⟨n, hn⟩ := exists_enough hserves
  refine ⟨n, ?_⟩
  intro c hc
  have hl := lived_ofCursor c predicate calls
  have henough : (∃ i < n, (c.answer i).isRecord = false) ∨
      asked calls ≤ (firstAnswers c.answer n).countP (!·.isTurnedAway (wanted predicate)) := by
    rw [Cursor.firstAnswers_congr hc]
    refine hn.imp ?_ id
    rintro ⟨i, hi, hstop⟩
    exact ⟨i, hi, by rw [hc i hi, hstop]⟩
  have hle := hl.length_le henough
  rw [← Cursor.firstAnswers_congr fun i hi => hc i (by omega)]
  exact hl

/-- Ages without an end; every second one is above 28. -/
def alternating (i : Nat) : Pull :=
  .record ⟨⟨"test", none, .ofInt i⟩, [("age", .ofInt (if i % 2 = 0 then 17 else 30))], 1⟩

theorem alternating_serves (calls : List ResultCall) :
    Serves (wanted (some (.compare "age" (.greater (.ofInt 28))))) alternating calls := by
  intro k _ _
  refine ⟨2 * k + 1, by omega, ?_⟩
  have hodd : ¬ (2 * k + 1) % 2 = 0 := by omega
  rw [alternating, if_neg hodd]
  rfl

/-- The life of results of a cursor that never ends. -/
theorem life_cycle_alternating :
    ∃ n, ∀ c : Cursor, (∀ i < n, c.answer i = alternating i) →
      Lived (wanted (some (.compare "age" (.greater (.ofInt 28))))) 0 [.next, .close, .next]
        (firstAnswers alternating
          (((ofCursor c (some (.compare "age" (.greater (.ofInt 28))))).live
            [.next, .close, .next]).calls.count .pull))
        ((ofCursor c (some (.compare "age" (.greater (.ofInt 28))))).live
          [.next, .close, .next]) :=
  (life_cycle (some (.compare "age" (.greater (.ofInt 28)))) [.next, .close, .next]).2.1
    alternating (alternating_serves _)

end ResultIterator

end IndexPlanner

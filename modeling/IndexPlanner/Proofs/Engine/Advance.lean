import IndexPlanner.Engine.Iterator

/-! One step of the results of a cursor, by the answers that single pulls get. A step passes over
the records that are turned away, and ends with the first answer that is none of them. -/
namespace IndexPlanner

namespace Pull

/-- The answer is a record. -/
def isRecord : Pull → Bool
  | record _ => true
  | _ => false

/-- The answer is a record that is not wanted. -/
def isTurnedAway (wanted : Record → Bool) : Pull → Bool
  | record r => !wanted r
  | _ => false

/-- The item that the answer becomes: a wanted record or a failure. -/
def item? (wanted : Record → Bool) : Pull → Option (Except StoreError Record)
  | record r => if wanted r then some (.ok r) else none
  | failure e => some (.error e)
  | finished => none

variable {wanted : Record → Bool} {a : Pull}

theorem isRecord_of_isTurnedAway (h : a.isTurnedAway wanted = true) : a.isRecord = true := by
  cases a with
  | record r => rfl
  | _ => simp [isTurnedAway] at h

theorem item?_of_isTurnedAway (h : a.isTurnedAway wanted = true) : a.item? wanted = none := by
  cases a with
  | record r =>
    simp only [isTurnedAway, Bool.not_eq_true'] at h
    simp [item?, h]
  | _ => simp [isTurnedAway] at h

theorem isTurnedAway_of_not_isRecord (h : a.isRecord = false) : a.isTurnedAway wanted = false := by
  cases a with
  | record r => simp [isRecord] at h
  | _ => rfl

end Pull

namespace Cursor

/-- The answers to one pull after the other. -/
def answer (c : Cursor) : Nat → Pull
  | 0 => c.next.1
  | n + 1 => c.next.2.answer n

/-- The first answers. -/
def firstAnswers (answer : Nat → Pull) (n : Nat) : List Pull := (List.range n).map answer

theorem length_firstAnswers (answer : Nat → Pull) (n : Nat) :
    (firstAnswers answer n).length = n := by
  rw [firstAnswers, List.length_map, List.length_range]

theorem firstAnswers_add (answer : Nat → Pull) (m n : Nat) :
    firstAnswers answer (m + n) =
      firstAnswers answer m ++ firstAnswers (fun i => answer (m + i)) n := by
  rw [firstAnswers, List.range_add, List.map_append, List.map_map]
  rfl

theorem firstAnswers_succ (answer : Nat → Pull) (n : Nat) :
    firstAnswers answer (n + 1) = firstAnswers answer n ++ [answer n] := by
  rw [firstAnswers_add]
  rfl

/-- Answers that agree up to a number are the same that far. -/
theorem firstAnswers_congr {answer answer' : Nat → Pull} {n : Nat}
    (h : ∀ i < n, answer i = answer' i) : firstAnswers answer n = firstAnswers answer' n := by
  apply List.map_congr_left
  intro i hi
  exact h i (List.mem_range.1 hi)

theorem answer_eq (answers : List Pull) (n : Nat) :
    answer ⟨answers, false⟩ n = answers[n]?.getD .finished := by
  induction n generalizing answers with
  | zero => cases answers <;> rfl
  | succ n ih =>
    rw [answer]
    cases answers with
    | nil => exact ih []
    | cons a rest => exact ih rest

theorem answer_of_closed (answers : List Pull) (n : Nat) :
    answer ⟨answers, true⟩ n = .failure .cursorClosed := by
  induction n with
  | zero => rfl
  | succ n ih => exact ih

/-- What seeking does: it counts the answers that are turned away and stops at the next one. -/
theorem seek_spec (wanted : Record → Bool) (answers : List Pull) :
    (∀ i < (seek wanted answers).skipped, ∃ a, answers[i]? = some a ∧ a.isTurnedAway wanted) ∧
      (seek wanted answers).answer =
        answers[(seek wanted answers).skipped]?.getD .finished ∧
      (seek wanted answers).answer.isTurnedAway wanted = false ∧
      (seek wanted answers).rest = answers.drop ((seek wanted answers).skipped + 1) := by
  induction answers with
  | nil => simp [seek, Pull.isTurnedAway]
  | cons a rest ih =>
    obtain ⟨haway, hanswer, hstop, hrest⟩ := ih
    cases a with
    | record r =>
      by_cases hw : wanted r = true
      · simp [seek, hw, Pull.isTurnedAway]
      · have hseek : seek wanted (.record r :: rest) =
            { seek wanted rest with skipped := (seek wanted rest).skipped + 1 } := by
          simp [seek, hw]
        rw [hseek]
        refine ⟨?_, ?_, hstop, ?_⟩
        · intro i hi
          cases i with
          | zero => exact ⟨_, rfl, by simp [Pull.isTurnedAway, hw]⟩
          | succ i =>
            obtain ⟨b, hb, hba⟩ := haway i (by simp only at hi; omega)
            exact ⟨b, by rw [List.getElem?_cons_succ, hb], hba⟩
        · rw [hanswer, List.getElem?_cons_succ]
        · rw [hrest, List.drop_succ_cons]
    | failure e => simp [seek, Pull.isTurnedAway]
    | finished => simp [seek, Pull.isTurnedAway]

end Cursor

namespace ResultIterator

/-- The records that a predicate does not turn away. -/
def wanted (predicate : Option Predicate) (r : Record) : Bool := predicate.all (·.accepts r.bins)

/-- The results `it` of a cursor with these answers advance to `a`: the answers before number `n`
are turned away, and what answer `n` is decides over the rest. -/
inductive Advances (it : ResultIterator) (predicate : Option Predicate) (answer : Nat → Pull)
    (n : Nat) (a : Advance) : Prop
  | record {r : Record} {c : Cursor} (hr : answer n = .record r)
      (hwanted : wanted predicate r = true) (hc : ∀ i, c.answer i = answer (n + 1 + i))
      (ha : a = ⟨some (.ok r), ⟨.stream c predicate, it.skipped + n⟩,
        List.replicate (n + 1) .pull⟩)
  | stop (hstop : (answer n).isRecord = false)
      (ha : a = ⟨(answer n).item? (wanted predicate), it.ended n,
        List.replicate (n + 1) .pull ++ [.close]⟩)

theorem next_closed {it : ResultIterator} (h : it.feed = .closed) : it.next = ⟨none, it, []⟩ := by
  simp only [next, h]

theorem next_stream {it : ResultIterator} {c : Cursor} {predicate : Option Predicate}
    (h : it.feed = .stream c predicate) :
    ∃ n, (∀ i < n, (c.answer i).isTurnedAway (wanted predicate) = true) ∧
      it.Advances predicate c.answer n it.next := by
  obtain ⟨answers, closed⟩ := c
  cases closed with
  | true =>
    refine ⟨0, by omega, .stop ?_ ?_⟩
    · rw [Cursor.answer_of_closed]
      rfl
    · simp only [next, h, Cursor.pending, Cursor.answer_of_closed]
      rfl
  | false =>
    obtain ⟨haway, hanswer, hstop, hrest⟩ := Cursor.seek_spec (wanted predicate) answers
    refine ⟨(Cursor.seek (wanted predicate) answers).skipped, ?_, ?_⟩
    · intro i hi
      obtain ⟨a, ha, haway⟩ := haway i hi
      rw [Cursor.answer_eq, ha]
      exact haway
    · rw [← Cursor.answer_eq] at hanswer
      have hwanted : (fun r : Record => predicate.all (·.accepts r.bins)) = wanted predicate := rfl
      cases ha : (Cursor.seek (wanted predicate) answers).answer with
      | record r =>
        rw [ha] at hanswer hstop
        refine .record (c := ⟨(Cursor.seek (wanted predicate) answers).rest, false⟩) hanswer.symm
          (by simpa [Pull.isTurnedAway] using hstop) ?_ ?_
        · intro i
          rw [Cursor.answer_eq, Cursor.answer_eq, hrest, List.getElem?_drop]
        · simp only [next, h, Cursor.pending, Bool.false_eq_true, if_false, hwanted, ha]
      | failure e =>
        rw [ha] at hanswer
        refine .stop (by rw [← hanswer]; rfl) ?_
        rw [← hanswer]
        simp only [next, h, Cursor.pending, Bool.false_eq_true, if_false, hwanted, ha, Pull.item?]
      | finished =>
        rw [ha] at hanswer
        refine .stop (by rw [← hanswer]; rfl) ?_
        rw [← hanswer]
        simp only [next, h, Cursor.pending, Bool.false_eq_true, if_false, hwanted, ha, Pull.item?]

end ResultIterator

end IndexPlanner

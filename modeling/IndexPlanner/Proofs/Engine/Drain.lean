import IndexPlanner.Proofs.Engine.Advance

/-! All results of a cursor over records: the wanted ones in their order, after which the cursor is
closed. -/
namespace IndexPlanner.ResultIterator

open Cursor (ofRecords)

variable {it it' : ResultIterator} {predicate : Option Predicate} {r : Record} {rs : List Record}

theorem next_ofRecords_nil (h : it.feed = .stream (ofRecords []) predicate) :
    it.next = ⟨none, it.ended 0, [.pull, .close]⟩ := by
  simp [next, h, ofRecords, Cursor.pending, Cursor.seek]

theorem next_ofRecords_wanted (h : it.feed = .stream (ofRecords (r :: rs)) predicate)
    (hr : wanted predicate r = true) :
    it.next = ⟨some (.ok r), ⟨.stream (ofRecords rs) predicate, it.skipped⟩, [.pull]⟩ := by
  rw [wanted] at hr
  simp [next, h, ofRecords, Cursor.pending, Cursor.seek, hr]

/-- A record that is turned away is one more pull, and one more that is skipped. -/
theorem next_ofRecords_away (h : it.feed = .stream (ofRecords (r :: rs)) predicate)
    (hr : wanted predicate r = false)
    (h' : it' = ⟨.stream (ofRecords rs) predicate, it.skipped + 1⟩) :
    it.next = { it'.next with calls := .pull :: it'.next.calls } := by
  subst h'
  rw [wanted] at hr
  have hseek : Cursor.seek (fun r => predicate.all (·.accepts r.bins))
      (.record r :: rs.map .record) =
      { Cursor.seek (fun r => predicate.all (·.accepts r.bins)) (rs.map .record) with
        skipped := (Cursor.seek (fun r => predicate.all (·.accepts r.bins))
          (rs.map .record)).skipped + 1 } := by
    simp [Cursor.seek, hr]
  simp only [next, h, ofRecords, Cursor.pending, Bool.false_eq_true, if_false, List.map_cons, hseek]
  cases (Cursor.seek (fun r => predicate.all (·.accepts r.bins)) (rs.map .record)).answer with
  | _ => simp [ended, List.replicate_succ, Nat.add_assoc, Nat.add_comm 1]

theorem drainUpTo_of_none {fuel : Nat} (h : it.next.item = none) :
    it.drainUpTo (fuel + 1) = ([], it.next.results, it.next.calls) := by
  simp only [drainUpTo, h]

theorem drainUpTo_of_some {fuel : Nat} {item : Except StoreError Record}
    (h : it.next.item = some item) :
    it.drainUpTo (fuel + 1) =
      (item :: (it.next.results.drainUpTo fuel).1, (it.next.results.drainUpTo fuel).2.1,
        it.next.calls ++ (it.next.results.drainUpTo fuel).2.2) := by
  simp only [drainUpTo, h]

/-- Results whose next step is the same but for one pull more drain in the same way. -/
theorem drainUpTo_of_pull {fuel : Nat}
    (h : it.next = { it'.next with calls := .pull :: it'.next.calls }) :
    it.drainUpTo (fuel + 1) =
      ((it'.drainUpTo (fuel + 1)).1, (it'.drainUpTo (fuel + 1)).2.1,
        .pull :: (it'.drainUpTo (fuel + 1)).2.2) := by
  cases hitem : it'.next.item with
  | none => rw [drainUpTo_of_none (by rw [h, hitem]), drainUpTo_of_none hitem, h]
  | some item =>
    rw [drainUpTo_of_some (by rw [h, hitem]), drainUpTo_of_some hitem, h, List.cons_append]

theorem drainUpTo_ofRecords {fuel : Nat} (h : it.feed = .stream (ofRecords rs) predicate)
    (hfuel : rs.length ≤ fuel) :
    it.drainUpTo (fuel + 1) =
      ((rs.filter (wanted predicate)).map .ok,
        ⟨.closed, it.skipped + rs.countP (!wanted predicate ·)⟩,
        List.replicate (rs.length + 1) .pull ++ [.close]) := by
  induction rs generalizing it fuel with
  | nil =>
    have hnext := next_ofRecords_nil h
    rw [drainUpTo_of_none (by rw [hnext]), hnext]
    rfl
  | cons r rs ih =>
    rw [List.length_cons] at hfuel
    by_cases hr : wanted predicate r = true
    · obtain ⟨fuel, rfl⟩ := Nat.exists_eq_add_of_le' (Nat.one_le_of_lt hfuel)
      have hnext := next_ofRecords_wanted h hr
      have hrest : it.next.results.feed = .stream (ofRecords rs) predicate := by rw [hnext]
      rw [drainUpTo_of_some (by rw [hnext]), ih hrest (by omega), hnext,
        List.filter_cons_of_pos hr, List.countP_cons_of_neg (by simp [hr])]
      rfl
    · have hr := Bool.eq_false_iff.2 hr
      have hnext := next_ofRecords_away h hr rfl
      rw [drainUpTo_of_pull hnext, ih rfl (by omega), List.filter_cons_of_neg (by simp [hr]),
        List.countP_cons_of_pos (by simp [hr]), Nat.add_assoc it.skipped, Nat.add_comm 1]
      rfl

theorem drain_ofRecords (rs : List Record) (predicate : Option Predicate) :
    (ofCursor (ofRecords rs) predicate).drain =
      ((rs.filter (wanted predicate)).map .ok, ⟨.closed, rs.countP (!wanted predicate ·)⟩,
        List.replicate (rs.length + 1) .pull ++ [.close]) := by
  have hfeed : (ofCursor (ofRecords rs) predicate).feed = .stream (ofRecords rs) predicate := rfl
  have hbound : (ofCursor (ofRecords rs) predicate).bound = rs.length := by
    simp [ofCursor, bound, ofRecords, Cursor.pending]
  rw [drain, hbound, drainUpTo_ofRecords hfeed (Nat.le_refl _)]
  simp [ofCursor]

end IndexPlanner.ResultIterator

import IndexPlanner.Index.Snapshot

/-! Which of the indexes in a list a snapshot keeps: the first of each key. -/
namespace IndexPlanner

variable {i j : Index} {l acc : List Index}

theorem IndexKey.ne_of_cmp_ne_eq {a b : IndexKey} (h : cmp a b ≠ .eq) : a ≠ b := by
  rintro rfl
  have hself : cmp a a = .eq := Std.ReflCmp.compare_self
  exact h hself

namespace Index

theorem mem_insertNew_iff (h : Ascending l) :
    j ∈ insertNew i l ↔ j ∈ l ∨ j = i ∧ ∀ k ∈ l, k.key ≠ i.key := by
  induction l with
  | nil => simp [insertNew]
  | cons m rest ih =>
    obtain ⟨hm, hrest⟩ := List.pairwise_cons.1 h
    rw [insertNew]
    split
    · next hlt =>
      have hnew : ∀ k ∈ m :: rest, k.key ≠ i.key := by
        intro k hk
        have hik : IndexKey.cmp i.key k.key = .lt := by
          rcases List.mem_cons.1 hk with rfl | hk
          · exact hlt
          · exact Std.TransCmp.lt_trans hlt (hm k hk)
        exact (IndexKey.ne_of_cmp_ne_eq (by rw [hik]; decide)).symm
      simp only [List.mem_cons (a := j) (b := i), and_iff_left hnew, or_comm]
    · next heq =>
      have hkey := IndexKey.eq_of_cmp_eq heq
      have hold : ¬ ∀ k ∈ m :: rest, k.key ≠ i.key :=
        fun hnew => hnew m List.mem_cons_self hkey.symm
      simp only [hold, and_false, or_false]
    · next hgt =>
      have hne : m.key ≠ i.key := (IndexKey.ne_of_cmp_ne_eq (by rw [hgt]; decide)).symm
      rw [List.mem_cons, ih hrest, List.mem_cons, List.forall_mem_cons, and_iff_right hne, or_assoc]

/-- An index stays when it was there, or when nothing before it has its key. -/
theorem mem_foldl_insertNew_iff (h : Ascending acc) :
    j ∈ l.foldl (fun acc i => i.insertNew acc) acc ↔
      j ∈ acc ∨ (∀ k ∈ acc, k.key ≠ j.key) ∧ l.find? (·.key == j.key) = some j := by
  induction l generalizing acc with
  | nil => simp
  | cons i l ih =>
    rw [List.foldl_cons, ih (h.insertNew i), mem_insertNew_iff h]
    by_cases hkey : i.key = j.key
    · have hfind : (i :: l).find? (·.key == j.key) = some i :=
        List.find?_cons_of_pos (by simp [hkey])
      have hseen : ¬ ∀ k ∈ insertNew i acc, k.key ≠ j.key := by
        intro hnew
        by_cases hold : ∀ k ∈ acc, k.key ≠ i.key
        · exact hnew i ((mem_insertNew_iff h).2 (.inr ⟨rfl, hold⟩)) hkey
        · refine hold fun k hk => ?_
          rw [hkey]
          exact hnew k ((mem_insertNew_iff h).2 (.inl hk))
      rw [hfind, Option.some_inj, hkey]
      simp only [hseen, false_and, or_false, and_comm, eq_comm]
    · have hfind : (i :: l).find? (·.key == j.key) = l.find? (·.key == j.key) :=
        List.find?_cons_of_neg (by simp [hkey])
      have hnew : (∀ k ∈ insertNew i acc, k.key ≠ j.key) ↔ ∀ k ∈ acc, k.key ≠ j.key := by
        constructor
        · intro hall k hk
          exact hall k ((mem_insertNew_iff h).2 (.inl hk))
        · intro hall k hk
          rcases mem_insertNew hk with rfl | hk
          · exact hkey
          · exact hall k hk
      have hother : ¬ (j = i ∧ ∀ k ∈ acc, k.key ≠ i.key) := by
        rintro ⟨rfl, _⟩
        exact hkey rfl
      rw [hfind, hnew, or_iff_left hother]

theorem insertNew_of_forall_lt (h : ∀ k ∈ l, IndexKey.cmp k.key i.key = .lt) :
    insertNew i l = l ++ [i] := by
  induction l with
  | nil => rfl
  | cons m rest ih =>
    have hgt : IndexKey.cmp i.key m.key = .gt :=
      Std.OrientedCmp.gt_iff_lt.2 (h m List.mem_cons_self)
    rw [insertNew, hgt, List.cons_append]
    simp only [ih fun k hk => h k (List.mem_cons_of_mem m hk)]

theorem foldl_insertNew_of_ascending (h : Ascending (acc ++ l)) :
    l.foldl (fun acc i => i.insertNew acc) acc = acc ++ l := by
  induction l generalizing acc with
  | nil => rw [List.foldl_nil, List.append_nil]
  | cons i l ih =>
    have hlast : ∀ k ∈ acc, IndexKey.cmp k.key i.key = .lt := by
      intro k hk
      exact (List.pairwise_append.1 h).2.2 k hk i List.mem_cons_self
    rw [List.append_cons] at h
    rw [List.foldl_cons, insertNew_of_forall_lt hlast, ih h, ← List.append_cons]

end Index

namespace Snapshot

/-- A snapshot keeps the first index of each key. -/
theorem mem_ofList_iff : i ∈ (ofList l).indexes ↔ l.find? (·.key == i.key) = some i := by
  rw [ofList, Index.mem_foldl_insertNew_iff .nil]
  simp

theorem mem_of_mem_ofList (h : i ∈ (ofList l).indexes) : i ∈ l :=
  List.mem_of_find?_eq_some (mem_ofList_iff.1 h)

theorem ofList_indexes (s : Snapshot) : ofList s.indexes = s :=
  ext (@Index.foldl_insertNew_of_ascending s.indexes [] s.ascending)

end Snapshot

end IndexPlanner

import IndexPlanner.Proofs.Filter.Leaf
import IndexPlanner.Proofs.Plan.Compile
import IndexPlanner.Proofs.Qualifier.Leaves

/-! Taking a leaf out of a query. What is left and the leaf together say what the query says, and
nothing else of the query is touched. -/
namespace IndexPlanner

open Json (Members)
open Qualifier (leavesOf)

namespace Pushdown

/-- One leaf is taken out of a list: a member, or a child of an AND that is a member. The AND closes
up over the gap; everything before and after it stays. -/
inductive Cut (l : Leaf) : List Qualifier → List Qualifier → Prop
  | leaf (rest : List Qualifier) : Cut l (.leaf l :: rest) rest
  | child (left right rest : List Qualifier) :
      Cut l (.group .and (left ++ .leaf l :: right) :: rest) (rejoin (left ++ right) ++ rest)
  | later (q : Qualifier) {qs rs : List Qualifier} (h : Cut l qs rs) : Cut l (q :: qs) (q :: rs)

variable {l : Leaf} {qs rs : List Qualifier}

/-! An AND that has closed up. -/

theorem rejoin_cons_cons (q q' : Qualifier) (rest : List Qualifier) :
    rejoin (q :: q' :: rest) = [.group .and (q :: q' :: rest)] := rfl

theorem leavesOf_rejoin (qs : List Qualifier) : leavesOf (rejoin qs) = leavesOf qs := by
  match qs with
  | [] => rfl
  | [q] => rfl
  | q :: q' :: rest => rw [rejoin_cons_cons, leavesOf, Qualifier.leaves, leavesOf, List.append_nil]

/-- What an AND says of its children is said of what it closes up to. -/
theorem forall_mem_rejoin_iff {P : Qualifier → Prop}
    (hand : ∀ qs, qs ≠ [] → (P (.group .and qs) ↔ ∀ q ∈ qs, P q)) (qs : List Qualifier) :
    (∀ q ∈ rejoin qs, P q) ↔ ∀ q ∈ qs, P q := by
  match qs with
  | [] => rfl
  | [q] => rfl
  | q :: q' :: rest =>
    rw [rejoin_cons_cons, List.forall_mem_singleton, hand _ (List.cons_ne_nil q _)]

theorem rejoin_eq_nil_iff : rejoin qs = [] ↔ qs = [] := by
  match qs with
  | [] => rfl
  | [q] => rfl
  | q :: q' :: rest => simp [rejoin_cons_cons]

/-! What a cut preserves. -/

namespace Cut

theorem leavesOf_eq (h : Cut l qs rs) :
    ∃ before after, leavesOf qs = before ++ l :: after ∧ leavesOf rs = before ++ after := by
  induction h with
  | leaf rest => exact ⟨[], leavesOf rest, rfl, rfl⟩
  | child left right rest =>
    refine ⟨leavesOf left, leavesOf right ++ leavesOf rest, ?_, ?_⟩
    · simp [leavesOf, Qualifier.leaves]
    · rw [Qualifier.leavesOf_append, leavesOf_rejoin, Qualifier.leavesOf_append, List.append_assoc]
  | later q _ ih =>
    obtain ⟨before, after, hqs, hrs⟩ := ih
    refine ⟨q.leaves ++ before, after, ?_, ?_⟩
    · rw [leavesOf, hqs, List.append_assoc]
    · rw [leavesOf, hrs, List.append_assoc]

theorem mem_leavesOf (h : Cut l qs rs) : l ∈ leavesOf qs := by
  obtain ⟨before, after, hqs, _⟩ := h.leavesOf_eq
  rw [hqs]
  exact List.mem_append_right before (.head after)

/-- A property that an AND has when it has children and they have it is neither lost nor won. -/
theorem forall_iff {P : Qualifier → Prop}
    (hand : ∀ qs, qs ≠ [] → (P (.group .and qs) ↔ ∀ q ∈ qs, P q)) (h : Cut l qs rs) :
    P (.leaf l) ∧ (∀ q ∈ rs, P q) ↔ ∀ q ∈ qs, P q := by
  induction h with
  | leaf rest => rw [List.forall_mem_cons]
  | child left right rest =>
    rw [List.forall_mem_append, forall_mem_rejoin_iff hand, List.forall_mem_cons,
      hand _ (List.append_ne_nil_of_right_ne_nil left (List.cons_ne_nil _ right)),
      List.forall_mem_append, List.forall_mem_append, List.forall_mem_cons]
    -- The leaf is said first here, and among its siblings there.
    grind
  | later q _ ih =>
    rw [List.forall_mem_cons, List.forall_mem_cons, ← ih]
    exact and_left_comm

theorem compiles_iff (h : Cut l qs rs) :
    (Qualifier.leaf l).Compiles ∧ (∀ q ∈ rs, q.Compiles) ↔ ∀ q ∈ qs, q.Compiles :=
  h.forall_iff fun qs _ => Qualifier.compiles_and_iff qs

theorem holds_iff (h : Cut l qs rs) (bins : Members) :
    (Qualifier.leaf l).Holds bins ∧ (∀ q ∈ rs, q.Holds bins) ↔ ∀ q ∈ qs, q.Holds bins :=
  h.forall_iff (P := fun q => q.Holds bins) fun qs _ => Qualifier.holds_and_iff qs bins

theorem ne_nil (h : Cut l qs rs) : qs ≠ [] := by
  cases h <;> exact List.cons_ne_nil _ _

/-- Nothing is left of a single leaf, or of an AND around it. -/
theorem eq_nil_iff (h : Cut l qs rs) : rs = [] ↔ qs = [.leaf l] ∨ qs = [.group .and [.leaf l]] := by
  cases h with
  | leaf rest => simp
  | child left right rest => simp [rejoin_eq_nil_iff, List.append_eq_singleton_iff]
  | later q h => simp [h.ne_nil]

end Cut

/-! The search for a leaf cuts it. -/

variable {s : Snapshot} {scope : Scope} {p : Pushdown}

theorem ofChildren?_split (h : ofChildren? s scope qs = some p) :
    filter? s scope p.leaf = some p.filter ∧
      ∃ left right, qs = left ++ .leaf p.leaf :: right ∧ p.residual = left ++ right := by
  induction qs generalizing p with
  | nil => cases h
  | cons q qs ih =>
    -- The first member is taken, or it stays before what the search leaves of the others.
    have hlater : ∀ p', ofChildren? s scope qs = some p' → p = after q p' →
        filter? s scope p.leaf = some p.filter ∧
          ∃ left right, q :: qs = left ++ .leaf p.leaf :: right ∧ p.residual = left ++ right := by
      rintro p' hp' rfl
      obtain ⟨hf, left, right, hqs, hrs⟩ := ih hp'
      exact ⟨hf, q :: left, right, by rw [hqs]; rfl, by rw [after, hrs]; rfl⟩
    unfold ofChildren? at h
    split at h
    · cases h
    · next l rest heq =>
      cases heq
      split at h
      · next f hf =>
        cases h
        exact ⟨hf, [], qs, rfl, rfl⟩
      · obtain ⟨p', hp', rfl⟩ := Option.map_eq_some_iff.1 h
        exact hlater p' hp' rfl
    · next heq =>
      cases heq
      obtain ⟨p', hp', rfl⟩ := Option.map_eq_some_iff.1 h
      exact hlater p' hp' rfl

theorem ofQualifier?_cut {q : Qualifier} (h : ofQualifier? s scope q = some p)
    (rest : List Qualifier) :
    filter? s scope p.leaf = some p.filter ∧ Cut p.leaf (q :: rest) (p.residual ++ rest) := by
  unfold ofQualifier? at h
  split at h
  · obtain ⟨f, hf, rfl⟩ := Option.map_eq_some_iff.1 h
    exact ⟨hf, .leaf rest⟩
  · obtain ⟨p', hp', rfl⟩ := Option.map_eq_some_iff.1 h
    obtain ⟨hf, left, right, rfl, hrs⟩ := ofChildren?_split hp'
    refine ⟨hf, ?_⟩
    rw [hrs]
    exact .child left right rest
  · cases h

theorem find?_cut (h : find? s scope qs = some p) :
    filter? s scope p.leaf = some p.filter ∧ Cut p.leaf qs p.residual := by
  induction qs generalizing p with
  | nil => cases h
  | cons q qs ih =>
    rw [find?] at h
    split at h
    · next p' hp' =>
      cases h
      exact ofQualifier?_cut hp' qs
    · obtain ⟨p', hp', rfl⟩ := Option.map_eq_some_iff.1 h
      obtain ⟨hf, hcut⟩ := ih hp'
      exact ⟨hf, hcut.later q⟩

end Pushdown

end IndexPlanner

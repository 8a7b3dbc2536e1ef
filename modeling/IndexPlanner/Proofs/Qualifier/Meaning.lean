import IndexPlanner.Predicate.Basic
import IndexPlanner.Proofs.Outcome

/-! What a qualifier says about the bins of a record, by the predicate that is made of it. Lists of
qualifiers and their conjunctions are reduced to their members. -/
namespace IndexPlanner

open Json (Members)

namespace Predicate

@[simp] theorem allAccept_eq (bins : Members) (ps : List Predicate) :
    allAccept bins ps = ps.all (accepts bins) := by
  induction ps with
  | nil => rw [allAccept, List.all_nil]
  | cons p ps ih => rw [allAccept, ih, List.all_cons]

@[simp] theorem someAccepts_eq (bins : Members) (ps : List Predicate) :
    someAccepts bins ps = ps.any (accepts bins) := by
  induction ps with
  | nil => rw [someAccepts, List.any_nil]
  | cons p ps ih => rw [someAccepts, ih, List.any_cons]

theorem ofQualifiers_cons_eq_ok {q : Qualifier} {qs : List Qualifier} {ps : List Predicate} :
    ofQualifiers (q :: qs) = .ok ps ↔
      ∃ p ps', ofQualifier q = .ok p ∧ ofQualifiers qs = .ok ps' ∧ ps = p :: ps' := by
  rw [ofQualifiers, bind_eq_ok_iff]
  constructor
  · rintro ⟨p, hp, h⟩
    obtain ⟨ps', hps, h⟩ := bind_eq_ok_iff.1 h
    exact ⟨p, ps', hp, hps, (Except.ok.inj h).symm⟩
  · rintro ⟨p, ps', hp, hps, rfl⟩
    exact ⟨p, hp, bind_eq_ok_iff.2 ⟨ps', hps, rfl⟩⟩

/-! The predicate of a leaf is a single condition, on the bin that the leaf names. -/

variable {l : Leaf} {p : Predicate}

/-- The bin that a single condition looks at. -/
def bin? : Predicate → Option String
  | group _ _ => none
  | compare bin _ => some bin
  | pattern bin _ => some bin
  | search bin _ _ => some bin
  | within bin _ => some bin

theorem bin?_of_ofText {place : Place} (h : ofText l place = .ok p) : p.bin? = some l.field := by
  unfold ofText at h
  split at h
  · cases h
    rfl
  · cases h

theorem bin?_of_ofLeaf (h : ofLeaf l = .ok p) : p.bin? = some l.field := by
  unfold ofLeaf at h
  split at h
  · split at h
    · exact bin?_of_ofText h
    · obtain ⟨t, _, rfl⟩ := map_eq_ok_iff.1 h
      rfl
  · exact bin?_of_ofText h
  · obtain ⟨t, _, rfl⟩ := map_eq_ok_iff.1 h
    rfl
  · split at h
    · cases h
      rfl
    · cases h
  · cases h

end Predicate

namespace Qualifier

/-- The qualifier has a predicate. -/
def Compiles (q : Qualifier) : Prop := ∃ p, Predicate.ofQualifier q = .ok p

/-- The qualifier has a predicate, and a record with these bins satisfies it. -/
def Holds (q : Qualifier) (bins : Members) : Prop :=
  ∃ p, Predicate.ofQualifier q = .ok p ∧ p.accepts bins = true

theorem Holds.compiles {q : Qualifier} {bins : Members} (h : q.Holds bins) : q.Compiles := by
  obtain ⟨p, hp, _⟩ := h
  exact ⟨p, hp⟩

theorem holds_iff {q : Qualifier} {p : Predicate} (h : Predicate.ofQualifier q = .ok p)
    (bins : Members) : q.Holds bins ↔ p.accepts bins = true := by
  constructor
  · rintro ⟨p', hp', ha⟩
    rw [h] at hp'
    cases hp'
    exact ha
  · intro ha
    exact ⟨p, h, ha⟩

/-- A list has predicates when each of its members has one. -/
theorem ofQualifiers_isOk_iff (qs : List Qualifier) :
    (∃ ps, Predicate.ofQualifiers qs = .ok ps) ↔ ∀ q ∈ qs, q.Compiles := by
  induction qs with
  | nil => simp [Predicate.ofQualifiers]
  | cons q qs ih =>
    rw [List.forall_mem_cons, ← ih]
    constructor
    · rintro ⟨ps, h⟩
      obtain ⟨p, ps', hp, hps, _⟩ := Predicate.ofQualifiers_cons_eq_ok.1 h
      exact ⟨⟨p, hp⟩, ps', hps⟩
    · rintro ⟨⟨p, hp⟩, ps', hps⟩
      exact ⟨p :: ps', Predicate.ofQualifiers_cons_eq_ok.2 ⟨p, ps', hp, hps, rfl⟩⟩

/-- All members hold when all predicates of the list accept. -/
theorem forall_holds_iff {qs : List Qualifier} {ps : List Predicate}
    (h : Predicate.ofQualifiers qs = .ok ps) (bins : Members) :
    (∀ q ∈ qs, q.Holds bins) ↔ ps.all (Predicate.accepts bins) = true := by
  induction qs generalizing ps with
  | nil =>
    cases h
    simp
  | cons q qs ih =>
    obtain ⟨p, ps', hp, hps, rfl⟩ := Predicate.ofQualifiers_cons_eq_ok.1 h
    rw [List.forall_mem_cons, ih hps, holds_iff hp, List.all_cons, Bool.and_eq_true]

/-- An AND has a predicate when its children have, and holds when all of them do. -/
theorem compiles_and_iff (qs : List Qualifier) :
    (group .and qs).Compiles ↔ ∀ q ∈ qs, q.Compiles := by
  rw [← ofQualifiers_isOk_iff]
  simp only [Compiles, Predicate.ofQualifier, map_eq_ok_iff]
  constructor
  · rintro ⟨_, ps, h, _⟩
    exact ⟨ps, h⟩
  · rintro ⟨ps, h⟩
    exact ⟨_, ps, h, rfl⟩

theorem holds_and_iff (qs : List Qualifier) (bins : Members) :
    (group .and qs).Holds bins ↔ ∀ q ∈ qs, q.Holds bins := by
  constructor
  · intro h
    obtain ⟨ps, hps⟩ := (ofQualifiers_isOk_iff qs).2 ((compiles_and_iff qs).1 h.compiles)
    have hp : Predicate.ofQualifier (group .and qs) = .ok (.group .and ps) := by
      rw [Predicate.ofQualifier, hps, Except.map]
    rw [forall_holds_iff hps]
    simpa [Predicate.accepts] using (holds_iff hp bins).1 h
  · intro h
    obtain ⟨ps, hps⟩ := (ofQualifiers_isOk_iff qs).2 fun q hq => (h q hq).compiles
    refine ⟨.group .and ps, by rw [Predicate.ofQualifier, hps, Except.map], ?_⟩
    simpa [Predicate.accepts] using (forall_holds_iff hps bins).1 h

/-- The conjunction of a list exists when all members have predicates. -/
theorem conjunction_isOk_iff (qs : List Qualifier) :
    (∃ o, Predicate.conjunction qs = .ok o) ↔ ∀ q ∈ qs, q.Compiles := by
  rw [← ofQualifiers_isOk_iff]
  simp only [Predicate.conjunction, map_eq_ok_iff]
  constructor
  · rintro ⟨_, ps, h, _⟩
    exact ⟨ps, h⟩
  · rintro ⟨ps, h⟩
    exact ⟨_, ps, h, rfl⟩

/-- The conjunction accepts what all members say; without members there is none, and then
everything is accepted. -/
theorem conjunction_accepts_iff {qs : List Qualifier} {o : Option Predicate}
    (h : Predicate.conjunction qs = .ok o) (bins : Members) :
    o.all (·.accepts bins) = true ↔ ∀ q ∈ qs, q.Holds bins := by
  rw [Predicate.conjunction, map_eq_ok_iff] at h
  obtain ⟨ps, hps, rfl⟩ := h
  rw [forall_holds_iff hps]
  match ps with
  | [] => simp
  | [p] => simp
  | p :: p' :: rest => simp [Predicate.accepts]

end Qualifier

end IndexPlanner

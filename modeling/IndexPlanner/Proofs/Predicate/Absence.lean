import IndexPlanner.Filter.Basic
import IndexPlanner.Proofs.Qualifier.Leaves
import IndexPlanner.Proofs.Qualifier.Meaning

/-! Bins that are missing or null. A condition on a bin looks at nothing else in a record and is
never met by null, and neither AND nor OR turns a failure into a success. So what a record satisfies
is satisfied by every record that has the same in the bins where the first has anything. -/
namespace IndexPlanner

open Json (Members Value)

namespace Json.Members

/-- What a bin holds, if that is anything but null. -/
def present? (bins : Members) (bin : String) : Option Value :=
  (bins.get? bin).filter (!·.isNull)

/-- What the bin holds in the first record it holds in the second one, too; null counts as
nothing. -/
def Keeps (bins bins' : Members) (bin : String) : Prop :=
  ∀ v, bins.present? bin = some v → bins'.get? bin = some v

/-- A condition on records that looks at one bin, and is met by no null. -/
def LooksAt (bin : String) (meets : Members → Bool) : Prop :=
  ∃ test : Value → Bool, test .null = false ∧
    ∀ bins : Members, meets bins = (bins.get? bin).any test

variable {bin : String} {meets : Members → Bool} {bins bins' : Members}

theorem exists_present_of_meets (h : LooksAt bin meets) (hmeets : meets bins = true) :
    ∃ v, bins.present? bin = some v := by
  obtain ⟨test, hnull, hany⟩ := h
  rw [hany, Option.any_eq_true] at hmeets
  obtain ⟨v, hv, htest⟩ := hmeets
  refine ⟨v, Option.filter_eq_some_iff.2 ⟨hv, ?_⟩⟩
  cases v with
  | null => simp [hnull] at htest
  | _ => rfl

/-- A bin that is missing or null meets no condition. -/
theorem LooksAt.eq_false (h : LooksAt bin meets) (habsent : bins.present? bin = none) :
    meets bins = false := by
  rw [Bool.eq_false_iff]
  intro hmeets
  obtain ⟨v, hv⟩ := exists_present_of_meets h hmeets
  rw [habsent] at hv
  cases hv

theorem LooksAt.mono (h : LooksAt bin meets) (hkeeps : bins.Keeps bins' bin)
    (hmeets : meets bins = true) : meets bins' = true := by
  obtain ⟨v, hv⟩ := exists_present_of_meets h hmeets
  obtain ⟨hget, _⟩ := Option.filter_eq_some_iff.1 hv
  obtain ⟨test, _, hany⟩ := h
  rw [hany, hget] at hmeets
  rw [hany, hkeeps v hv]
  exact hmeets

end Json.Members

open Json.Members (LooksAt)

namespace IndexFilter

theorem looksAt_accepts (f : IndexFilter) : LooksAt f.bin f.accepts := by
  cases f with
  | equalInt b value =>
    refine ⟨fun v => v.int64? == some value, rfl, fun bins => ?_⟩
    rw [accepts, bin]
    cases bins.get? b <;> rfl
  | equalText b value =>
    refine ⟨fun v => v.string? == some value, rfl, fun bins => ?_⟩
    rw [accepts, bin]
    cases bins.get? b <;> rfl
  | range b low high =>
    refine ⟨fun v => v.int64?.any fun i => decide (low ≤ i ∧ i ≤ high), rfl, fun bins => ?_⟩
    simp only [accepts, bin]
    cases bins.get? b with
    | none => rfl
    | some v =>
      rw [Option.bind_some, Option.any_some]
      cases v.int64? <;> rfl
  | within b region =>
    refine ⟨fun v => (Region.ofText? region).any (·.contains v), ?_, fun bins => ?_⟩
    · cases Region.ofText? region <;> rfl
    · simp only [accepts, bin]
      cases bins.get? b <;> cases Region.ofText? region <;> rfl

end IndexFilter

namespace Predicate

variable {p : Predicate} {bin : String} {bins bins' : Members}

theorem looksAt_of_bin? (h : p.bin? = some bin) : LooksAt bin fun bins => p.accepts bins := by
  cases p with
  | group j ps => cases h
  | compare b t =>
    cases h
    exact ⟨t.accepts, rfl, fun _ => rfl⟩
  | pattern b p =>
    cases h
    refine ⟨fun v => v.string?.any p.accepts, rfl, fun bins => ?_⟩
    simp only [accepts]
    cases bins.get? bin <;> rfl
  | search b shape t =>
    cases h
    refine ⟨t.acceptsSome shape, ?_, fun _ => rfl⟩
    cases shape <;> rfl
  | within b r =>
    cases h
    exact ⟨r.contains, rfl, fun _ => rfl⟩

mutual
theorem accepts_of_keeps (q : Qualifier) {p : Predicate} (hp : ofQualifier q = .ok p)
    (hkeeps : ∀ l ∈ q.leaves, bins.Keeps bins' l.field) (h : p.accepts bins = true) :
    p.accepts bins' = true := by
  cases q with
  | key v => cases hp
  | leaf l =>
    exact (looksAt_of_bin? (bin?_of_ofLeaf hp)).mono (hkeeps l (List.mem_singleton_self l)) h
  | group j qs =>
    rw [ofQualifier, map_eq_ok_iff] at hp
    obtain ⟨ps, hps, rfl⟩ := hp
    have hclauses := forall_accepts_of_keeps qs hps hkeeps
    cases j with
    | and =>
      simp only [accepts, allAccept_eq, List.all_eq_true] at h ⊢
      exact fun p hp => hclauses p hp (h p hp)
    | or =>
      simp only [accepts, someAccepts_eq, List.any_eq_true] at h ⊢
      obtain ⟨p, hp, haccepts⟩ := h
      exact ⟨p, hp, hclauses p hp haccepts⟩

/-- Each clause that the first record satisfies the second one satisfies. -/
theorem forall_accepts_of_keeps (qs : List Qualifier) {ps : List Predicate}
    (hps : ofQualifiers qs = .ok ps)
    (hkeeps : ∀ l ∈ Qualifier.leavesOf qs, bins.Keeps bins' l.field) :
    ∀ p ∈ ps, p.accepts bins = true → p.accepts bins' = true := by
  cases qs with
  | nil =>
    cases hps
    simp
  | cons q qs =>
    obtain ⟨p, ps', hp, hps', rfl⟩ := ofQualifiers_cons_eq_ok.1 hps
    rw [Qualifier.leavesOf, List.forall_mem_append] at hkeeps
    rw [List.forall_mem_cons]
    exact ⟨accepts_of_keeps q hp hkeeps.1, forall_accepts_of_keeps qs hps' hkeeps.2⟩
end

/-- Only the bins that are named matter, and a missing bin or a null never helps. What a record
satisfies, be it the predicate of a tree or a filter, is satisfied by every record that has the same
in each named bin where the first has anything but null; and where a leaf or a filter finds nothing
but null, it is not satisfied. -/
theorem accepts_mono (bins bins' : Members) :
    (∀ q p, ofQualifier q = .ok p → (∀ l ∈ q.leaves, bins.Keeps bins' l.field) →
      p.accepts bins = true → p.accepts bins' = true) ∧
    (∀ f : IndexFilter, bins.Keeps bins' f.bin → f.accepts bins = true →
      f.accepts bins' = true) ∧
    (∀ l p, ofQualifier (.leaf l) = .ok p → bins.present? l.field = none →
      p.accepts bins = false) ∧
    ∀ f : IndexFilter, bins.present? f.bin = none → f.accepts bins = false := by
  refine ⟨fun q p => accepts_of_keeps q, fun f => f.looksAt_accepts.mono, ?_,
    fun f => f.looksAt_accepts.eq_false⟩
  intro l p hp
  exact (looksAt_of_bin? (bin?_of_ofLeaf hp)).eq_false

/-! A tree on the age and the colour of a record, with nulls among its operands. -/

/-- The age is null, or the colour is null or red. -/
def nullOrRed : Qualifier :=
  .group .or [.unary (.compare .equal) "age" .null,
    .group .and [.unary (.compare .oneOf) "colour" (.array [.null, .string "red"])]]

/-- Red without an age. -/
def ageless : Members := [("age", .null), ("colour", .string "red")]

/-- The same with an age, and a size that nothing asks for. -/
def aged : Members := [("age", .ofInt 3), ("colour", .string "red"), ("size", .ofInt 1)]

/-- Neither leaf finds its null in a record, but the colour counts. The filters see the same. -/
theorem accepts_mono_nullOrRed :
    (∃ p, ofQualifier nullOrRed = .ok p ∧ p.accepts ageless = true ∧ p.accepts aged = true) ∧
    (∃ p, ofQualifier (.unary (.compare .equal) "age" .null) = .ok p ∧
      p.accepts ageless = false) ∧
    (IndexFilter.equalText "colour" "red").accepts aged = true ∧
    (IndexFilter.range "age" 0 9).accepts ageless = false := by
  obtain ⟨htree, hfilter, hleaf, hnone⟩ := accepts_mono ageless aged
  have hage : ageless.present? "age" = none := rfl
  have hred : ageless.present? "colour" = some (.string "red") := rfl
  have hkeeps : ∀ bin ∈ ["age", "colour"], ageless.Keeps aged bin := by
    simp only [List.forall_mem_cons, Members.Keeps, hage, hred, Option.some.injEq]
    refine ⟨by simp, ?_, by simp⟩
    rintro v rfl
    rfl
  have hleaves : ∀ l ∈ nullOrRed.leaves, ageless.Keeps aged l.field :=
    fun l hl => hkeeps l.field (List.mem_map_of_mem hl)
  exact ⟨⟨_, rfl, rfl, htree nullOrRed _ rfl hleaves rfl⟩,
    ⟨_, rfl, hleaf { field := "age", operation := .compare .equal, operand := .null } _ rfl hage⟩,
    hfilter (.equalText "colour" "red") (hkeeps "colour" (by simp)) rfl, hnone _ hage⟩

end Predicate

end IndexPlanner

import IndexPlanner.Proofs.Predicate.Interval
import IndexPlanner.Proofs.Qualifier.Meaning

/-! A filter and the leaf that it is made of. Equality with a text and the points of a region mean
the same to both. A filter on integers passes over the numbers that no index holds, fractions and
integers beyond the signed words, whatever the leaf says about them; nothing else tells the two
apart. -/
namespace IndexPlanner

open Json (Number Value Members)

namespace Leaf

/-- The leaf compares with a number, and its bin holds a number that is no integer of a signed word.
An index holds no such number. -/
def Overlooks (l : Leaf) (bins : Members) : Prop :=
  l.operand.isNumber = true ∧ ∃ n, bins.get? l.field = some (.number n) ∧ n.int64? = none

/-- An operand that is an object is the same after it has been written and read again. -/
def OperandReadsBack (l : Leaf) : Prop :=
  ∀ members, l.operand = .object members → Value.read l.operand.text = some l.operand

end Leaf

namespace IndexFilter

/-- The least and the greatest integer that the filter asks for, if it asks for integers. -/
def interval? : IndexFilter → Option (Int × Int)
  | equalInt _ value => some (value, value)
  | range _ low high => some (low, high)
  | _ => none

theorem accepts_iff_of_interval? {f : IndexFilter} {low high : Int}
    (h : f.interval? = some (low, high)) (bins : Members) :
    f.accepts bins = true ↔
      ∃ i, (bins.get? f.bin).bind Value.int64? = some i ∧ low ≤ i ∧ i ≤ high := by
  cases f with
  | equalInt b value =>
    cases h
    rw [accepts, beq_iff_eq, bin]
    constructor
    · intro hv
      exact ⟨_, hv, Int.le_refl _, Int.le_refl _⟩
    · rintro ⟨i, hi, hlow, hhigh⟩
      rw [hi, Int.le_antisymm hhigh hlow]
  | range b low high =>
    cases h
    simp only [accepts, bin]
    cases (bins.get? b).bind Value.int64? with
    | none => simp
    | some i => simp
  | equalText => cases h
  | within => cases h

/-- A filter made of a leaf, and the predicate of the leaf. -/
inductive Translates (l : Leaf) : IndexFilter → Predicate → Prop
  | interval {f : IndexFilter} {low high : Int} {t : ValueTest} (hbin : f.bin = l.field)
      (hf : f.interval? = some (low, high)) (ht : t.Spans low high)
      (hl : l.operand.isNumber = true) : Translates l f (.compare l.field t)
  | text {s : String} (hl : l.operand = .string s) :
      Translates l (.equalText l.field s) (.compare l.field (.equal (.string s)))
  | region {r : Region} (hop : l.operation = .geoWithin)
      (hl : Region.ofValue? l.operand = some r) :
      Translates l (.within l.field (regionText l.operand)) (.within l.field r)

variable {l : Leaf} {b : String} {v : Value} {upper : Option Value} {f : IndexFilter}

/-! The ranges that comparisons ask for. -/

theorem ofGreater?_eq_some_iff : ofGreater? b v = some f ↔
    ∃ k, v.int64? = some k ∧ k < maxInt ∧ range b (k + 1) maxInt = f := by
  simp [ofGreater?, Option.bind_eq_some_iff]

theorem ofAtLeast?_eq_some_iff : ofAtLeast? b v = some f ↔
    ∃ k, v.int64? = some k ∧ range b k maxInt = f := by
  rw [ofAtLeast?, Option.map_eq_some_iff]

theorem ofLess?_eq_some_iff : ofLess? b v = some f ↔
    ∃ k, v.int64? = some k ∧ minInt < k ∧ range b minInt (k - 1) = f := by
  simp [ofLess?, Option.bind_eq_some_iff]

theorem ofAtMost?_eq_some_iff : ofAtMost? b v = some f ↔
    ∃ k, v.int64? = some k ∧ range b minInt k = f := by
  rw [ofAtMost?, Option.map_eq_some_iff]

theorem ofBetween?_eq_some_iff : ofBetween? b v upper = some f ↔
    ∃ low high, v.int64? = some low ∧ (∃ u, upper = some u ∧ u.int64? = some high) ∧
      low ≤ high ∧ range b low high = f := by
  simp [ofBetween?, Option.bind_eq_some_iff]

/-! The filters that leaves have, one operation after the other. -/

theorem ordered_number {n : Number} : Predicate.ordered l (.number n) = .ok (.number n) := by
  simp [Predicate.ordered, Value.isNumber]

theorem exists_translates_of_spans {c : Comparison} {t : ValueTest} {f : IndexFilter}
    {low high : Int} (hop : l.operation = .compare c) (hcase : l.isCaseInsensitive = false)
    (hl : l.operand.isNumber = true) (ht : Predicate.valueTest l c = .ok t)
    (hs : t.Spans low high) (hbin : f.bin = l.field) (hf : f.interval? = some (low, high)) :
    ∃ p, Predicate.ofLeaf l = .ok p ∧ Translates l f p := by
  refine ⟨.compare l.field t, ?_, .interval hbin hf hs hl⟩
  simp [Predicate.ofLeaf, hop, hcase, ht, Except.map]

theorem exists_translates_equal {f : IndexFilter} (hop : l.operation = .compare .equal)
    (hcase : l.isCaseInsensitive = false) (h : ofEqual? l.field l.operand = some f) :
    ∃ p, Predicate.ofLeaf l = .ok p ∧ Translates l f p := by
  cases hl : l.operand with
  | number n =>
    rw [hl, ofEqual?, Option.map_eq_some_iff] at h
    obtain ⟨k, hk, rfl⟩ := h
    refine exists_translates_of_spans hop hcase (by rw [hl]; rfl) ?_
      (ValueTest.spans_equal hk) rfl rfl
    rw [Predicate.valueTest, hl]
  | string s =>
    rw [hl, ofEqual?, Option.some.injEq] at h
    subst h
    refine ⟨_, ?_, .text hl⟩
    simp [Predicate.ofLeaf, hop, hcase, Predicate.valueTest, hl, Except.map]
  | _ => simp [hl, ofEqual?] at h

/-- An ordered comparison with an integer becomes a range when its test spans one. -/
theorem exists_translates_ordered {c : Comparison} {t : Value → ValueTest} {k low high : Int}
    (hop : l.operation = .compare c) (hcase : l.isCaseInsensitive = false)
    (ht : Predicate.valueTest l c = (Predicate.ordered l l.operand).map t)
    (hk : l.operand.int64? = some k)
    (hs : ∀ n : Number, n.int64? = some k → (t (.number n)).Spans low high) :
    ∃ p, Predicate.ofLeaf l = .ok p ∧ Translates l (.range l.field low high) p := by
  obtain ⟨n, hl, hn⟩ := Value.int64?_eq_some_iff.1 hk
  refine exists_translates_of_spans hop hcase (by rw [hl]; rfl) ?_ (hs n hn) rfl rfl
  rw [ht, hl, ordered_number, Except.map]

theorem exists_translates_between {f : IndexFilter} (hop : l.operation = .compare .between)
    (hcase : l.isCaseInsensitive = false) (h : ofBetween? l.field l.operand l.upper = some f) :
    ∃ p, Predicate.ofLeaf l = .ok p ∧ Translates l f p := by
  obtain ⟨low, high, hlow, ⟨u, hu, hhigh⟩, _, rfl⟩ := ofBetween?_eq_some_iff.1 h
  obtain ⟨n, hl, hn⟩ := Value.int64?_eq_some_iff.1 hlow
  obtain ⟨n', rfl, hn'⟩ := Value.int64?_eq_some_iff.1 hhigh
  refine exists_translates_of_spans hop hcase (by rw [hl]; rfl) ?_
    (ValueTest.spans_between hn hn') rfl rfl
  simp only [Predicate.valueTest, Predicate.upper, hl, hu, ordered_number]
  rfl

theorem exists_translates_within {f : IndexFilter} (hop : l.operation = .geoWithin)
    (h : ofRegion? l.field l.operand = some f) :
    ∃ p, Predicate.ofLeaf l = .ok p ∧ Translates l f p := by
  obtain ⟨r, hr, rfl⟩ := Option.map_eq_some_iff.1 h
  refine ⟨_, ?_, .region hop hr⟩
  simp only [Predicate.ofLeaf, hop, hr]

/-- A leaf with a filter has a predicate. -/
theorem exists_translates {f : IndexFilter} (h : ofLeaf? l = some f) :
    ∃ p, Predicate.ofLeaf l = .ok p ∧ Translates l f p := by
  unfold ofLeaf? at h
  split at h
  · cases h
  · next hcase =>
    have hcase := Bool.eq_false_iff.2 hcase
    split at h
    · next hop => exact exists_translates_equal hop hcase h
    · next hop =>
      obtain ⟨k, hk, _, rfl⟩ := ofGreater?_eq_some_iff.1 h
      exact exists_translates_ordered hop hcase rfl hk fun _ => ValueTest.spans_greater
    · next hop =>
      obtain ⟨k, hk, rfl⟩ := ofAtLeast?_eq_some_iff.1 h
      exact exists_translates_ordered hop hcase rfl hk fun _ => ValueTest.spans_atLeast
    · next hop =>
      obtain ⟨k, hk, _, rfl⟩ := ofLess?_eq_some_iff.1 h
      exact exists_translates_ordered hop hcase rfl hk fun _ => ValueTest.spans_less
    · next hop =>
      obtain ⟨k, hk, rfl⟩ := ofAtMost?_eq_some_iff.1 h
      exact exists_translates_ordered hop hcase rfl hk fun _ => ValueTest.spans_atMost
    · next hop => exact exists_translates_between hop hcase h
    · next hop => exact exists_translates_within hop h
    · cases h

/-! What a filter accepts. -/

/-- The text of a region is the region again. -/
theorem ofText?_regionText {r : Region} (hl : Region.ofValue? l.operand = some r)
    (hback : l.OperandReadsBack) : Region.ofText? (regionText l.operand) = some r := by
  cases hv : l.operand with
  | string t =>
    rw [hv, Region.ofValue?] at hl
    rw [regionText, hl]
  | object members =>
    have hread := hback members hv
    rw [hv] at hread hl
    rw [regionText, Region.ofText?, hread, Option.bind_some]
    · exact hl
    · intro t ht
      cases ht
  | _ => simp [hv, Region.ofValue?] at hl

theorem isNumber_of_ofValue? {r : Region} (h : Region.ofValue? v = some r) :
    v.isNumber = false := by
  cases v with
  | number n => cases h
  | _ => rfl

theorem not_overlooks (hl : l.operand.isNumber = false) (bins : Members) : ¬ l.Overlooks bins := by
  rintro ⟨hnum, _⟩
  rw [hl] at hnum
  exact Bool.false_ne_true hnum

theorem accepts_string_iff (v : Value) (s : String) :
    (ValueTest.equal (.string s)).accepts v = true ↔ v.string? = some s := by
  cases v with
  | string a =>
    simp only [ValueTest.accepts, ValueTest.holds, Value.equals, Value.order?, Value.same,
      Value.isNull, Value.string?]
    by_cases h : a = s <;> simp [h]
  | _ =>
    simp [ValueTest.accepts, ValueTest.holds, Value.equals, Value.order?, Value.same,
      Value.string?]

/-- A record answers the filter of a leaf when it satisfies the leaf and is not overlooked. -/
theorem Translates.accepts_iff {f : IndexFilter} {p : Predicate} (h : Translates l f p)
    (hback : l.operation = .geoWithin → l.OperandReadsBack) (bins : Members) :
    f.accepts bins = true ↔ p.accepts bins = true ∧ ¬ l.Overlooks bins := by
  cases h with
  | interval hbin hf ht hl =>
    rw [accepts_iff_of_interval? hf, hbin, Predicate.accepts, Option.any_eq_true]
    constructor
    · rintro ⟨i, hi, hspan⟩
      obtain ⟨v, hv, hi⟩ := Option.bind_eq_some_iff.1 hi
      refine ⟨⟨v, hv, (ht.accepts_iff hi).2 hspan⟩, ?_⟩
      rintro ⟨_, n, hn, hnone⟩
      rw [hv, Option.some.injEq] at hn
      subst hn
      rw [Value.int64?, Value.number?, Option.bind_some, hnone] at hi
      cases hi
    · rintro ⟨⟨v, hv, ha⟩, hover⟩
      obtain ⟨n, rfl⟩ := Value.isNumber_iff.1 (ht.isNumber ha)
      cases hi : n.int64? with
      | none => exact absurd ⟨hl, n, hv, hi⟩ hover
      | some i =>
        have hi' : (Value.number n).int64? = some i := hi
        exact ⟨i, by rw [hv, Option.bind_some, hi'], (ht.accepts_iff hi').1 ha⟩
  | text hl =>
    have hover := not_overlooks (l := l) (by rw [hl]; rfl) bins
    rw [and_iff_left hover, Predicate.accepts, Option.any_eq_true, accepts, beq_iff_eq,
      Option.bind_eq_some_iff]
    simp only [accepts_string_iff]
  | region hop hl =>
    rw [and_iff_left (not_overlooks (isNumber_of_ofValue? hl) bins), Predicate.accepts]
    simp only [accepts, ofText?_regionText hl (hback hop)]
    cases bins.get? l.field with
    | none => simp
    | some v => simp

end IndexFilter

end IndexPlanner

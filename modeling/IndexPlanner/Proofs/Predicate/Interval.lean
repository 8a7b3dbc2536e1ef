import IndexPlanner.Filter.Basic
import IndexPlanner.Predicate.ValueTest

/-! Tests with integer operands as intervals. Among the integers of a signed word such a test passes
those between two ends; what is no number never passes it. -/
namespace IndexPlanner

open Json (Number Value)
open IndexFilter (minInt maxInt)

namespace Json.Number

/-- A signed word holds no integer beyond its ends. -/
theorem int64?_bounds {n : Number} {i : Int} (h : n.int64? = some i) : minInt ≤ i ∧ i ≤ maxInt := by
  cases n with
  | int value fits =>
    simp only [int64?] at h
    split at h
    · cases h
      simp only [minInt, maxInt]
      omega
    · simp at h
  | real x => simp [int64?] at h

theorem compare_of_int64? {n m : Number} {i k : Int} (hn : n.int64? = some i)
    (hm : m.int64? = some k) : n.compare m = Ord.compare i k := by
  simp only [compare, hn, hm]

theorem same_of_int64? {n m : Number} {i k : Int} (hn : n.int64? = some i)
    (hm : m.int64? = some k) : n.same m = (i == k) := by
  cases n with
  | real x => simp [int64?] at hn
  | int value fits =>
    cases m with
    | real x => simp [int64?] at hm
    | int value' fits' =>
      simp only [int64?, Option.ite_none_right_eq_some, Option.some.injEq] at hn hm
      rw [same, hn.2, hm.2]

end Json.Number

namespace Json.Value

theorem int64?_eq_some_iff {v : Value} {i : Int} :
    v.int64? = some i ↔ ∃ n, v = .number n ∧ n.int64? = some i := by
  cases v <;> simp [int64?, number?]

theorem isNumber_iff {v : Value} : v.isNumber = true ↔ ∃ n, v = .number n := by
  cases v <;> simp [isNumber]

/-! Only numbers are ordered against a number or equal to it. -/

variable {v : Value} {n m : Number} {i k : Int}

theorem order?_number (h : v.isNumber = false) : v.order? (.number m) = none := by
  cases v <;> simp_all [order?, isNumber]

theorem isAbove_number (h : v.isNumber = false) : v.isAbove (.number m) = false := by
  rw [isAbove, order?_number h]
  rfl

theorem isBelow_number (h : v.isNumber = false) : v.isBelow (.number m) = false := by
  rw [isBelow, order?_number h]
  rfl

theorem isLevel_number (h : v.isNumber = false) : v.isLevel (.number m) = false := by
  rw [isLevel, order?_number h]
  rfl

theorem equals_number (h : v.isNumber = false) : v.equals (.number m) = false := by
  rw [equals, order?_number h]
  cases v <;> simp_all [same, isNumber]

/-! Integers of signed words are ordered as integers. -/

theorem isAbove_of_int64? (hn : n.int64? = some i) (hm : m.int64? = some k) :
    (number n).isAbove (number m) = decide (k < i) := by
  simp only [isAbove, order?, Number.compare_of_int64? hn hm]
  rw [Bool.eq_iff_iff, beq_iff_eq, Option.some.injEq, Int.compare_eq_gt, decide_eq_true_eq]

theorem isBelow_of_int64? (hn : n.int64? = some i) (hm : m.int64? = some k) :
    (number n).isBelow (number m) = decide (i < k) := by
  simp only [isBelow, order?, Number.compare_of_int64? hn hm]
  rw [Bool.eq_iff_iff, beq_iff_eq, Option.some.injEq, Int.compare_eq_lt, decide_eq_true_eq]

theorem isLevel_of_int64? (hn : n.int64? = some i) (hm : m.int64? = some k) :
    (number n).isLevel (number m) = decide (i = k) := by
  simp only [isLevel, order?, Number.compare_of_int64? hn hm]
  rw [Bool.eq_iff_iff, beq_iff_eq, Option.some.injEq, Std.compare_eq_iff_eq, decide_eq_true_eq]

theorem equals_of_int64? (hn : n.int64? = some i) (hm : m.int64? = some k) :
    (number n).equals (number m) = decide (i = k) := by
  have hlevel := isLevel_of_int64? hn hm
  rw [isLevel] at hlevel
  rw [equals, hlevel, same, Number.same_of_int64? hn hm]
  by_cases h : i = k <;> simp [h]

end Json.Value

namespace ValueTest

/-- The test passes the integers from `low` to `high`, as far as signed words go, and nothing but
numbers. -/
structure Spans (t : ValueTest) (low high : Int) : Prop where
  integer : ∀ (n : Number) (i : Int), n.int64? = some i →
    (t.holds (.number n) = true ↔ low ≤ i ∧ i ≤ high)
  other : ∀ v : Value, v.isNumber = false → t.holds v = false

variable {m m' : Number} {k k' : Int}

theorem spans_equal (h : m.int64? = some k) : (equal (.number m)).Spans k k where
  integer := by
    intro n i hn
    rw [holds, Value.equals_of_int64? hn h, decide_eq_true_eq]
    omega
  other := by
    intro v hv
    rw [holds, Value.equals_number hv]

theorem spans_greater (h : m.int64? = some k) : (greater (.number m)).Spans (k + 1) maxInt where
  integer := by
    intro n i hn
    have hb := Number.int64?_bounds hn
    rw [holds, Value.isAbove_of_int64? hn h, decide_eq_true_eq]
    omega
  other := by
    intro v hv
    rw [holds, Value.isAbove_number hv]

theorem spans_atLeast (h : m.int64? = some k) : (atLeast (.number m)).Spans k maxInt where
  integer := by
    intro n i hn
    have hb := Number.int64?_bounds hn
    rw [holds, Value.isAbove_of_int64? hn h, Value.isLevel_of_int64? hn h, Bool.or_eq_true,
      decide_eq_true_eq, decide_eq_true_eq]
    omega
  other := by
    intro v hv
    rw [holds, Value.isAbove_number hv, Value.isLevel_number hv, Bool.or_false]

theorem spans_less (h : m.int64? = some k) : (less (.number m)).Spans minInt (k - 1) where
  integer := by
    intro n i hn
    have hb := Number.int64?_bounds hn
    rw [holds, Value.isBelow_of_int64? hn h, decide_eq_true_eq]
    omega
  other := by
    intro v hv
    rw [holds, Value.isBelow_number hv]

theorem spans_atMost (h : m.int64? = some k) : (atMost (.number m)).Spans minInt k where
  integer := by
    intro n i hn
    have hb := Number.int64?_bounds hn
    rw [holds, Value.isBelow_of_int64? hn h, Value.isLevel_of_int64? hn h, Bool.or_eq_true,
      decide_eq_true_eq, decide_eq_true_eq]
    omega
  other := by
    intro v hv
    rw [holds, Value.isBelow_number hv, Value.isLevel_number hv, Bool.or_false]

/-- A range passes what is neither below its lower end nor above its upper one. -/
theorem spans_between (h : m.int64? = some k) (h' : m'.int64? = some k') :
    (between (.number m) (.number m')).Spans k k' where
  integer := by
    intro n i hn
    have hlow := (spans_atLeast h).integer n i hn
    have hhigh := (spans_atMost h').integer n i hn
    have hb := Number.int64?_bounds hn
    simp only [holds] at hlow hhigh ⊢
    rw [Bool.and_eq_true, hlow, hhigh]
    omega
  other := by
    intro v hv
    have hlow := (spans_atLeast h).other v hv
    simp only [holds] at hlow ⊢
    rw [hlow, Bool.false_and]

/-- An integer of a signed word passes the test when it lies in the interval. -/
theorem Spans.accepts_iff {t : ValueTest} {low high : Int} (h : t.Spans low high) {v : Value}
    {i : Int} (hv : v.int64? = some i) : t.accepts v = true ↔ low ≤ i ∧ i ≤ high := by
  obtain ⟨n, rfl, hn⟩ := Value.int64?_eq_some_iff.1 hv
  rw [← h.integer n i hn]
  simp [accepts, Value.isNull]

theorem Spans.isNumber {t : ValueTest} {low high : Int} (h : t.Spans low high) {v : Value}
    (hv : t.accepts v = true) : v.isNumber = true := by
  rw [accepts, Bool.and_eq_true] at hv
  by_cases hn : v.isNumber = true
  · exact hn
  · have hother := h.other v (Bool.eq_false_iff.2 hn)
    rw [hother] at hv
    exact absurd hv.2 Bool.false_ne_true

end ValueTest

end IndexPlanner

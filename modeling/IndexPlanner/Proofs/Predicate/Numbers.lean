import IndexPlanner.Proofs.Binary64.Nearest
import IndexPlanner.Proofs.Predicate.Consistency
import IndexPlanner.Proofs.Predicate.Interval
import Mathlib.Algebra.Order.Field.Rat
import Mathlib.Data.Rat.Cast.Order

/-! Tests of numbers against numbers, by their exact values. The order is that of the values as far
as floating-point numbers can tell: two numbers that are not both integers of signed words count as
equal when they are nearest to the same floating-point number. Only integers that are no
floating-point numbers can be confused in this way. -/
namespace IndexPlanner

open Binary64 (unitsOfOne rowLength)
open Json (Number Value)

namespace Json.Number

variable {a b : Number}

/-- The exact value. -/
def value : Number → ℚ
  | int i _ => i
  | real x => x.scaled / unitsOfOne

/-- The exact value in multiples of `2 ^ -1074`. -/
def scaled : Number → Int
  | int i _ => i * unitsOfOne
  | real x => x.scaled

/-- The numbers differ, and they are not both integers of signed words, but rounding takes them to
the same floating-point number. -/
def Blurs (a b : Number) : Prop :=
  a.value ≠ b.value ∧ (a.int64? = none ∨ b.int64? = none) ∧
    ∃ x : Binary64, x.Rounds a.scaled ∧ x.Rounds b.scaled

/-- An integer beyond `2 ^ 53` on either side. -/
def IsWide : Number → Prop
  | int i _ => 2 * rowLength < i.natAbs
  | real _ => False

theorem value_eq (a : Number) : a.value = a.scaled / unitsOfOne := by
  cases a with
  | int i fits =>
    have hne : (unitsOfOne : ℚ) ≠ 0 := Nat.cast_ne_zero.2 Binary64.unitsOfOne_pos.ne'
    rw [value, scaled, Int.cast_mul, Int.cast_natCast, mul_div_cancel_right₀ _ hne]
  | real x => rfl

theorem value_lt_iff : a.value < b.value ↔ a.scaled < b.scaled := by
  have hpos : (0 : ℚ) < unitsOfOne := Nat.cast_pos.2 Binary64.unitsOfOne_pos
  rw [value_eq, value_eq, div_lt_div_iff_of_pos_right hpos, Int.cast_lt]

theorem value_eq_iff : a.value = b.value ↔ a.scaled = b.scaled := by
  rw [le_antisymm_iff, le_antisymm_iff, ← not_lt, ← not_lt, ← not_lt, ← not_lt, value_lt_iff,
    value_lt_iff]

theorem rounds_toBinary64 (a : Number) : a.toBinary64.Rounds a.scaled := by
  cases a with
  | int i fits => exact Binary64.rounds_ofInt i
  | real x => exact x.rounds_scaled

theorem position_eq_iff : a.toBinary64.position = b.toBinary64.position ↔
    ∃ x : Binary64, x.Rounds a.scaled ∧ x.Rounds b.scaled := by
  constructor
  · intro h
    exact ⟨a.toBinary64, a.rounds_toBinary64, b.rounds_toBinary64.congr h⟩
  · rintro ⟨x, ha, hb⟩
    rw [a.rounds_toBinary64.position_eq ha, b.rounds_toBinary64.position_eq hb]

theorem scaled_toBinary64_eq (h : a.scaled = b.scaled) :
    a.toBinary64.scaled = b.toBinary64.scaled := by
  have ha := a.rounds_toBinary64
  have hb := b.rounds_toBinary64
  cases a with
  | real x => exact (h ▸ hb).scaled_eq.symm
  | int i fits =>
    cases b with
    | real y => exact (h ▸ ha).scaled_eq
    | int j fits' =>
      have hij : i = j := Int.eq_of_mul_eq_mul_right
        (Int.natCast_ne_zero.2 Binary64.unitsOfOne_pos.ne') h
      rw [toBinary64, toBinary64, hij]

/-- Where floating-point numbers tell two numbers apart, they do so rightly. -/
theorem value_lt_of_position_lt (h : a.toBinary64.position < b.toBinary64.position) :
    a.value < b.value := by
  have hlt := Binary64.scaled_lt_iff.2 h
  rw [value_lt_iff]
  rcases Int.lt_trichotomy a.scaled b.scaled with hab | hab | hab
  · exact hab
  · exact absurd (scaled_toBinary64_eq hab) hlt.ne
  · exact absurd (b.rounds_toBinary64.scaled_le a.rounds_toBinary64 hab) hlt.not_ge

theorem scaled_toBinary64 (h : ¬ a.IsWide) : a.toBinary64.scaled = a.scaled := by
  cases a with
  | int i fits => exact Binary64.scaled_ofInt (Nat.not_lt.1 h)
  | real x => rfl

/-- Of two numbers that are confused one is wide. -/
theorem Blurs.wide (h : a.Blurs b) : a.IsWide ∨ b.IsWide := by
  obtain ⟨hne, -, hrounds⟩ := h
  by_contra hnot
  obtain ⟨ha, hb⟩ := not_or.1 hnot
  have hscaled := Binary64.scaled_eq_iff.2 (position_eq_iff.2 hrounds)
  rw [scaled_toBinary64 ha, scaled_toBinary64 hb] at hscaled
  exact hne (value_eq_iff.2 hscaled)

/-- Two words beyond the signed ones. -/
example : (ofInt 0xFFFFFFFFFFFFFFFF).Blurs (ofInt 0xFFFFFFFFFFFFFFFE) :=
  ⟨fun h => absurd (value_eq_iff.1 h) (by decide +kernel), .inl rfl,
    position_eq_iff.1 (by decide +kernel)⟩

theorem value_of_int64? {i : Int} (h : a.int64? = some i) : a.value = i := by
  cases a with
  | int j fits =>
    simp only [int64?, Option.ite_none_right_eq_some, Option.some.injEq] at h
    rw [value, h.2]
  | real x => cases h

/-! The order of two numbers, both integers of signed words or not both. -/

theorem not_blurs_of_int64? {i j : Int} (ha : a.int64? = some i) (hb : b.int64? = some j) :
    ¬ a.Blurs b := by
  rintro ⟨-, hnone, -⟩
  rw [ha, hb] at hnone
  simp at hnone

theorem compare_of_none (h : a.int64? = none ∨ b.int64? = none) :
    a.compare b = Ord.compare a.toBinary64.position b.toBinary64.position := by
  unfold compare
  rcases h with h | h
  · rw [h]
  · rw [h]
    cases a.int64? <;> rfl

/-- Numbers stand in the order of their values, unless they are confused. -/
theorem compare_cases (a b : Number) :
    (a.compare b = .lt ∧ a.value < b.value ∧ ¬ a.Blurs b) ∨
      (a.compare b = .eq ∧ (a.value = b.value ∨ a.Blurs b)) ∨
      (a.compare b = .gt ∧ b.value < a.value ∧ ¬ a.Blurs b) := by
  have hints : (∃ i j, a.int64? = some i ∧ b.int64? = some j) ∨
      (a.int64? = none ∨ b.int64? = none) := by
    cases a.int64? <;> cases b.int64? <;> simp
  rcases hints with ⟨i, j, hi, hj⟩ | hnone
  · have hblur := not_blurs_of_int64? hi hj
    rw [compare_of_int64? hi hj, value_of_int64? hi, value_of_int64? hj, Int.cast_lt, Int.cast_lt,
      Int.cast_inj]
    rcases Int.lt_trichotomy i j with h | h | h
    · exact .inl ⟨compare_lt_iff_lt.2 h, h, hblur⟩
    · exact .inr (.inl ⟨compare_eq_iff_eq.2 h, .inl h⟩)
    · exact .inr (.inr ⟨compare_gt_iff_gt.2 h, h, hblur⟩)
  · have hplace : a.Blurs b → a.toBinary64.position = b.toBinary64.position := fun hblur =>
      position_eq_iff.2 hblur.2.2
    rw [compare_of_none hnone]
    rcases Int.lt_trichotomy a.toBinary64.position b.toBinary64.position with h | h | h
    · exact .inl ⟨compare_lt_iff_lt.2 h, value_lt_of_position_lt h, fun hb => h.ne (hplace hb)⟩
    · refine .inr (.inl ⟨compare_eq_iff_eq.2 h, ?_⟩)
      by_cases hvalue : a.value = b.value
      · exact .inl hvalue
      · exact .inr ⟨hvalue, hnone, position_eq_iff.1 h⟩
    · refine .inr (.inr ⟨compare_gt_iff_gt.2 h, value_lt_of_position_lt h, ?_⟩)
      exact fun hb => h.ne' (hplace hb)

end Json.Number

namespace Json.Value

open Number

variable {a b : Number}

theorem isAbove_iff : (number a).isAbove (number b) = true ↔ b.value < a.value ∧ ¬ a.Blurs b := by
  rw [isAbove, order?]
  rcases compare_cases a b with ⟨h, hlt, hblur⟩ | ⟨h, hlevel⟩ | ⟨h, hgt, hblur⟩
  · simp [h, hlt.le]
  · rcases hlevel with heq | hblur
    · simp [h, heq]
    · simp [h, hblur]
  · simp [h, hgt, hblur]

theorem isBelow_iff : (number a).isBelow (number b) = true ↔ a.value < b.value ∧ ¬ a.Blurs b := by
  rw [isBelow, order?]
  rcases compare_cases a b with ⟨h, hlt, hblur⟩ | ⟨h, hlevel⟩ | ⟨h, hgt, hblur⟩
  · simp [h, hlt, hblur]
  · rcases hlevel with heq | hblur
    · simp [h, heq]
    · simp [h, hblur]
  · simp [h, hgt.le]

theorem isLevel_iff : (number a).isLevel (number b) = true ↔ a.value = b.value ∨ a.Blurs b := by
  rw [isLevel, order?]
  rcases compare_cases a b with ⟨h, hlt, hblur⟩ | ⟨h, hlevel⟩ | ⟨h, hgt, hblur⟩
  · simp [h, hlt.ne, hblur]
  · simp [h, hlevel]
  · simp [h, hgt.ne', hblur]

theorem equals_iff : (number a).equals (number b) = true ↔ a.value = b.value ∨ a.Blurs b := by
  rw [(Comparable.numbers a b).equals_eq, isLevel_iff]

theorem isAbove_or_isLevel_iff : ((number a).isAbove (number b) || (number a).isLevel (number b)) =
    true ↔ b.value ≤ a.value ∨ a.Blurs b := by
  rw [Bool.or_eq_true, isAbove_iff, isLevel_iff, le_iff_lt_or_eq, eq_comm]
  tauto

theorem isBelow_or_isLevel_iff : ((number a).isBelow (number b) || (number a).isLevel (number b)) =
    true ↔ a.value ≤ b.value ∨ a.Blurs b := by
  rw [Bool.or_eq_true, isBelow_iff, isLevel_iff, le_iff_lt_or_eq]
  tauto

end Json.Value

namespace ValueTest

/-- A number is tested by its exact value, but one that is confused with an operand counts as equal
to it. That takes a wide integer. -/
theorem accepts_number (a b c : Number) :
    ((equal (.number b)).accepts (.number a) = true ↔ a.value = b.value ∨ a.Blurs b) ∧
    ((greater (.number b)).accepts (.number a) = true ↔ b.value < a.value ∧ ¬ a.Blurs b) ∧
    ((atLeast (.number b)).accepts (.number a) = true ↔ b.value ≤ a.value ∨ a.Blurs b) ∧
    ((less (.number b)).accepts (.number a) = true ↔ a.value < b.value ∧ ¬ a.Blurs b) ∧
    ((atMost (.number b)).accepts (.number a) = true ↔ a.value ≤ b.value ∨ a.Blurs b) ∧
    ((between (.number b) (.number c)).accepts (.number a) = true ↔
      (b.value ≤ a.value ∨ a.Blurs b) ∧ (a.value ≤ c.value ∨ a.Blurs c)) ∧
    (a.Blurs b → a.IsWide ∨ b.IsWide) := by
  have haccepts : ∀ t : ValueTest, t.accepts (.number a) = t.holds (.number a) := fun _ => rfl
  simp only [haccepts, holds]
  refine ⟨Value.equals_iff, Value.isAbove_iff, Value.isAbove_or_isLevel_iff, Value.isBelow_iff,
    Value.isBelow_or_isLevel_iff, ?_, Number.Blurs.wide⟩
  rw [Bool.and_eq_true, Value.isAbove_or_isLevel_iff, Value.isBelow_or_isLevel_iff]

end ValueTest

end IndexPlanner

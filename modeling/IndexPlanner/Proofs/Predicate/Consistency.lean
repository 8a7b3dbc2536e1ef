import IndexPlanner.Predicate.ValueTest
import IndexPlanner.Proofs.Json.Same
import Mathlib.Data.List.Perm.Basic

/-! Tests of values against values. Two numbers, and two strings, stand in exactly one order, seen
from either of them; there being the same adds nothing to being level. All other values have no
order, and there being the same is all that counts. -/
namespace IndexPlanner

namespace Json

namespace Number

variable {a b : Number}

theorem compare_swap (a b : Number) : b.compare a = (a.compare b).swap := by
  have hswap : ∀ i j : Int, Ord.compare j i = (Ord.compare i j).swap :=
    fun _ _ => Std.OrientedOrd.eq_swap
  unfold compare
  cases a.int64? with
  | none => cases b.int64? <;> exact hswap _ _
  | some i => cases b.int64? <;> exact hswap _ _

theorem compare_of_same (h : a.same b = true) : a.compare b = .eq := by
  have hself : ∀ i : Int, Ord.compare i i = .eq := fun _ => Std.ReflOrd.compare_self
  unfold compare
  cases a with
  | int i fits =>
    cases b with
    | int j fits' =>
      obtain rfl : i = j := eq_of_beq h
      cases (int i fits).int64? <;> exact hself _
    | real y => cases h
  | real x =>
    cases b with
    | int j fits' => cases h
    | real y =>
      have hposition : x.position = y.position := eq_of_beq h
      simp only [int64?, toBinary64, hposition, hself]

end Number

namespace Value

/-- The values have an order: both are numbers, or both are strings. -/
inductive Comparable : Value → Value → Prop
  | numbers (a b : Number) : Comparable (number a) (number b)
  | strings (a b : String) : Comparable (string a) (string b)

variable {a b : Value} {o : Ordering}

theorem Comparable.symm (h : Comparable a b) : Comparable b a := by
  cases h with
  | numbers a b => exact .numbers b a
  | strings a b => exact .strings b a

/-- Comparable values stand in an order that agrees with the one seen from the other value. -/
theorem Comparable.exists_order (h : Comparable a b) :
    ∃ o, order? a b = some o ∧ order? b a = some o.swap ∧ (a.same b = true → o = .eq) := by
  cases h with
  | numbers a b => exact ⟨_, rfl, congrArg some (Number.compare_swap a b), Number.compare_of_same⟩
  | strings a b =>
    exact ⟨_, rfl, congrArg some Std.OrientedOrd.eq_swap,
      fun h => Std.LawfulEqOrd.compare_eq_iff_eq.2 (eq_of_beq h)⟩

theorem order?_eq_none (h : ¬ Comparable a b) : order? a b = none := by
  cases a with
  | number n =>
    cases b with
    | number m => exact absurd (.numbers n m) h
    | _ => rfl
  | string s =>
    cases b with
    | string t => exact absurd (.strings s t) h
    | _ => rfl
  | _ => rfl

/-! Equality. -/

theorem Comparable.equals_eq (h : Comparable a b) : a.equals b = a.isLevel b := by
  obtain ⟨o, ho, _, hsame⟩ := h.exists_order
  rw [equals, isLevel, ho]
  cases hs : a.same b with
  | false => rw [Bool.or_false]
  | true =>
    rw [hsame hs]
    rfl

theorem equals_eq_same (h : ¬ Comparable a b) : a.equals b = a.same b := by
  rw [equals, order?_eq_none h]
  rfl

theorem same_comm (a b : Value) : a.same b = b.same a := by
  rw [Bool.eq_iff_iff, same_iff, same_iff, eq_comm]

theorem equals_comm (a b : Value) : a.equals b = b.equals a := by
  by_cases h : Comparable a b
  · obtain ⟨o, ho, hswap, _⟩ := h.exists_order
    rw [h.equals_eq, h.symm.equals_eq, isLevel, isLevel, ho, hswap]
    cases o <;> rfl
  · rw [equals_eq_same h, equals_eq_same (mt Comparable.symm h), same_comm]

end Value

end Json

namespace ValueTest

open Json (Value)
open Json.Value (Comparable)

variable {a b : Value}

theorem accepts_of_ne_null (h : a ≠ .null) (t : ValueTest) : t.accepts a = t.holds a := by
  cases a with
  | null => exact absurd rfl h
  | _ => rfl

theorem accepts_equal_comm (ha : a ≠ .null) (hb : b ≠ .null) :
    (equal b).accepts a = (equal a).accepts b := by
  rw [accepts_of_ne_null ha, accepts_of_ne_null hb]
  exact Value.equals_comm a b

/-- Of comparable values, each is below, level with or above the other. -/
theorem accepts_of_comparable (h : Comparable a b) (ha : a ≠ .null) (hb : b ≠ .null) :
    [less b, equal b, greater b].countP (·.accepts a) = 1 ∧
    (atLeast b).accepts a = ((greater b).accepts a || (equal b).accepts a) ∧
    (atMost b).accepts a = ((less b).accepts a || (equal b).accepts a) ∧
    (greater b).accepts a = (less a).accepts b := by
  obtain ⟨o, ho, hswap, _⟩ := h.exists_order
  simp only [List.countP_cons, List.countP_nil, accepts_of_ne_null ha, accepts_of_ne_null hb,
    holds, h.equals_eq, Value.isAbove, Value.isBelow, Value.isLevel, ho, hswap]
  cases o <;> decide

theorem accepts_of_not_comparable (h : ¬ Comparable a b) (c : Value) :
    ∀ t ∈ [less b, atMost b, greater b, atLeast b, between b c, between c b],
      t.accepts a = false := by
  simp [accepts, holds, Value.isAbove, Value.isBelow, Value.isLevel, Value.order?_eq_none h]

theorem accepts_oneOf (vs : List Value) (a : Value) :
    (oneOf vs).accepts a = vs.any fun v => (equal v).accepts a := by
  cases hnull : a.isNull <;> simp [accepts, holds, hnull]

theorem accepts_between (a b c : Value) :
    (between b c).accepts a = ((atLeast b).accepts a && (atMost c).accepts a) := by
  cases hnull : a.isNull <;> simp [accepts, holds, hnull]

/-- The tests agree with each other. Of comparable values each is below the other, equal to it or
above it, and only one of these; the tests that take both ends in follow from that, and the order is
the same from the other side. Values that are not comparable have no order, and are equal when they
are in structure. A range is its two ends, a list is any of its members, and equality goes both
ways. -/
theorem accepts_consistent (a b c : Value) (ha : a ≠ .null) (hb : b ≠ .null) :
    (Comparable a b →
      [less b, equal b, greater b].countP (·.accepts a) = 1 ∧
      (atLeast b).accepts a = ((greater b).accepts a || (equal b).accepts a) ∧
      (atMost b).accepts a = ((less b).accepts a || (equal b).accepts a) ∧
      (greater b).accepts a = (less a).accepts b) ∧
    (¬ Comparable a b →
      (∀ t ∈ [less b, atMost b, greater b, atLeast b, between b c, between c b],
        t.accepts a = false) ∧
      ((equal b).accepts a = true ↔ a.plain = b.plain)) ∧
    (between b c).accepts a = ((atLeast b).accepts a && (atMost c).accepts a) ∧
    (∀ vs, ((oneOf vs).accepts a = true ↔ ∃ v ∈ vs, (equal v).accepts a = true) ∧
      ∀ vs', vs.Perm vs' → (oneOf vs).accepts a = (oneOf vs').accepts a) ∧
    (equal b).accepts a = (equal a).accepts b := by
  refine ⟨fun h => accepts_of_comparable h ha hb, ?_, accepts_between a b c, ?_,
    accepts_equal_comm ha hb⟩
  · intro h
    refine ⟨accepts_of_not_comparable h c, ?_⟩
    rw [accepts_of_ne_null ha, holds, Value.equals_eq_same h, Value.same_iff]
  · intro vs
    refine ⟨by rw [accepts_oneOf, List.any_eq_true], ?_⟩
    intro vs' hperm
    rw [accepts_oneOf, accepts_oneOf, hperm.any_eq]

/-- An integer that is no floating-point number. -/
def odd : Value := .number (.int 9007199254740993 (by decide))

/-- The floating-point number that the integer is rounded to. -/
def even : Value := .number (.real (.ofInt 9007199254740992))

/-- The two are level, so neither is above the other; but an array with one is not equal to an array
with the other. -/
theorem accepts_consistent_odd :
    [less even, equal even, greater even].countP (·.accepts odd) = 1 ∧
    (greater even).accepts odd = (less odd).accepts even ∧
    (equal even).accepts odd = (equal odd).accepts even ∧
    (equal (.array [even])).accepts (.array [odd]) = false := by
  obtain ⟨hcomparable, _, _, _, hcomm⟩ := accepts_consistent odd even odd nofun nofun
  obtain ⟨hone, _, _, hswap⟩ := hcomparable (.numbers _ _)
  obtain ⟨_, hother, _⟩ := accepts_consistent (.array [odd]) (.array [even]) odd nofun nofun
  obtain ⟨_, hequal⟩ := hother nofun
  refine ⟨hone, hswap, hcomm, ?_⟩
  rw [Bool.eq_false_iff, ne_eq, hequal]
  simp [Value.plain, Value.plainItems, Json.Number.plain, odd, even]

end ValueTest

end IndexPlanner

import IndexPlanner.Json.Value

/-! When two values are the same. That does not depend on how values are walked through: each value
has a plain form, in which no zero has a sign, and values are the same when their plain forms are
equal. So sameness is an equivalence. -/
namespace IndexPlanner

namespace Binary64

/-- The number itself, but zero without a sign. -/
def plain (x : Binary64) : Binary64 := if x.rank = 0 then { x with negative := false } else x

theorem position_plain (x : Binary64) : x.plain.position = x.position := by
  rw [plain]
  split
  · next hzero => cases hneg : x.negative <;> simp [position, hzero, hneg]
  · rfl

theorem position_eq_iff_plain {x y : Binary64} : x.position = y.position ↔ x.plain = y.plain := by
  constructor
  · intro h
    obtain ⟨xneg, rank, hx⟩ := x
    obtain ⟨yneg, yrank, hy⟩ := y
    have hrank : rank = yrank := by cases xneg <;> cases yneg <;> grind [position]
    subst hrank
    by_cases hzero : rank = 0
    · rw [plain, plain, if_pos hzero, if_pos hzero]
    · -- A magnitude beyond zero stands at two places, one for each sign.
      have hsign : xneg = yneg := by cases xneg <;> cases yneg <;> grind [position]
      subst hsign
      rfl
  · intro h
    rw [← position_plain x, h, position_plain]

end Binary64

namespace Json

namespace Number

/-- The number itself, but zero without a sign. -/
def plain : Number → Number
  | int i fits => int i fits
  | real x => real x.plain

theorem same_iff {a b : Number} : a.same b = true ↔ a.plain = b.plain := by
  cases a <;> cases b <;> simp [same, plain, Binary64.position_eq_iff_plain]

end Number

namespace Value

mutual
/-- The value itself, but no zero in it has a sign. -/
def plain : Value → Value
  | null => null
  | bool b => bool b
  | number n => number n.plain
  | string s => string s
  | array items => array (plainItems items)
  | object members => object (plainMembers members)

def plainItems : List Value → List Value
  | [] => []
  | v :: vs => plain v :: plainItems vs

def plainMembers : List (String × Value) → List (String × Value)
  | [] => []
  | (k, v) :: members => (k, plain v) :: plainMembers members
end

mutual
/-- Values are the same when they are equal but for the signs of zeros. -/
theorem same_iff (a b : Value) : a.same b = true ↔ a.plain = b.plain := by
  cases a with
  | number n => cases b <;> simp [same, plain, Number.same_iff]
  | array as =>
    cases b with
    | array bs => rw [same, plain, plain, sameItems_iff as bs, array.injEq]
    | _ => simp [same, plain]
  | object as =>
    cases b with
    | object bs => rw [same, plain, plain, sameMembers_iff as bs, object.injEq]
    | _ => simp [same, plain]
  | _ => cases b <;> simp [same, plain]

theorem sameItems_iff (as bs : List Value) :
    sameItems as bs = true ↔ plainItems as = plainItems bs := by
  cases as with
  | nil => cases bs <;> simp [sameItems, plainItems]
  | cons a as =>
    cases bs with
    | nil => simp [sameItems, plainItems]
    | cons b bs =>
      rw [sameItems, plainItems, plainItems, Bool.and_eq_true, same_iff a b, sameItems_iff as bs,
        List.cons.injEq]

theorem sameMembers_iff (as bs : List (String × Value)) :
    sameMembers as bs = true ↔ plainMembers as = plainMembers bs := by
  match as, bs with
  | [], [] => simp [sameMembers]
  | [], _ :: _ => simp [sameMembers, plainMembers]
  | _ :: _, [] => simp [sameMembers, plainMembers]
  | (k, a) :: as, (l, b) :: bs =>
    rw [sameMembers, plainMembers, plainMembers, Bool.and_eq_true, Bool.and_eq_true, beq_iff_eq,
      same_iff a b, sameMembers_iff as bs, List.cons.injEq, Prod.mk.injEq]
end

/-- The two zeros are the same, also within values; an integer is another value. -/
example : (array [number (.real default)]).same
      (array [number (.real { (default : Binary64) with negative := true })]) = true ∧
    (array [number (.real default)]).same (array [ofInt 0]) = false := by decide +kernel

end Value

end Json

end IndexPlanner

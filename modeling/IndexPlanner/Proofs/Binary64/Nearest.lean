import IndexPlanner.Binary64.Basic
import Mathlib.Order.Monotone.Basic
import Mathlib.Tactic.Ring

/-! Rounding to the nearest floating-point number. Magnitudes stand in rows of equal steps, and the
step of a row is a power of two. The rank that `nearestRank` gives is one of the two ends of the
step that the fraction falls in: the nearer one, or the even one if both are equally near. -/
namespace IndexPlanner.Binary64

/-- The number of steps in a row. -/
def rowLength : Nat := Nat.pow 2 52

/-- One in multiples of the least positive magnitude. -/
def unitsOfOne : Nat := Nat.pow 2 1074

theorem two_pow_eq_unitsOfOne {n : Nat} (h : n = 1074) : 2 ^ n = unitsOfOne := by
  unfold unitsOfOne
  rw [← h]
  rfl

theorem rowLength_pos : 0 < rowLength := Nat.two_pow_pos 52

theorem unitsOfOne_pos : 0 < unitsOfOne := by
  unfold unitsOfOne
  generalize 1074 = n
  exact Nat.two_pow_pos n

/-- The multiple `m * 2 ^ shift` is a magnitude: both ends of a row count as its own, and the first
row has another one below it. -/
structure InRow (shift m : Nat) : Prop where
  le : m ≤ 2 * rowLength
  ge : shift = 0 ∨ rowLength ≤ m

theorem InRow.succ {shift m : Nat} (h : InRow shift m) (hm : m < 2 * rowLength) :
    InRow shift (m + 1) where
  le := hm
  ge := h.ge.imp_right Nat.le_succ_of_le

theorem unitsOfRank_add (e : Nat) {m : Nat} (hm : m < rowLength) :
    unitsOfRank (e * rowLength + m) = if e = 0 then m else (rowLength + m) * 2 ^ (e - 1) := by
  have hdef : ∀ r, unitsOfRank r = if r / rowLength = 0 then r
      else (rowLength + r % rowLength) * 2 ^ (r / rowLength - 1) := fun _ => rfl
  have hdiv : (e * rowLength + m) / rowLength = e := by
    rw [Nat.mul_comm, Nat.mul_add_div rowLength_pos, Nat.div_eq_of_lt hm, Nat.add_zero]
  have hmod : (e * rowLength + m) % rowLength = m := by
    rw [Nat.mul_comm, Nat.mul_add_mod, Nat.mod_eq_of_lt hm]
  rw [hdef, hdiv, hmod]
  split
  · next he => rw [he, Nat.zero_mul, Nat.zero_add]
  · rfl

theorem unitsOfRank_eq {shift m : Nat} (h : InRow shift m) :
    unitsOfRank (shift * rowLength + m) = m * 2 ^ shift := by
  have hpos := rowLength_pos
  rcases Nat.lt_or_ge m rowLength with hm | hm
  · have hshift : shift = 0 := h.ge.resolve_right (Nat.not_le.2 hm)
    rw [unitsOfRank_add shift hm, if_pos hshift, hshift, Nat.pow_zero, Nat.mul_one]
  · obtain ⟨k, rfl⟩ := Nat.exists_eq_add_of_le hm
    have hk : k ≤ rowLength := by have := h.le; omega
    have hrank : shift * rowLength + (rowLength + k) = (shift + 1) * rowLength + k := by ring
    rcases Nat.lt_or_eq_of_le hk with hk | rfl
    · rw [hrank, unitsOfRank_add _ hk, if_neg (Nat.succ_ne_zero shift), Nat.add_sub_cancel]
    · -- the end of a row is the beginning of the next
      have hnext : shift * rowLength + (rowLength + rowLength) = (shift + 2) * rowLength + 0 := by
        ring
      rw [hnext, unitsOfRank_add _ hpos, if_neg (Nat.succ_ne_zero (shift + 1))]
      simp only [Nat.add_zero, show shift + 2 - 1 = shift + 1 by omega]
      ring

theorem exists_row (r : Nat) :
    ∃ shift m, InRow shift m ∧ m < 2 * rowLength ∧ r = shift * rowLength + m := by
  have hsplit := Nat.div_add_mod' r rowLength
  have hmod := Nat.mod_lt r rowLength_pos
  cases he : r / rowLength with
  | zero =>
    rw [he] at hsplit
    exact ⟨0, r, ⟨by omega, .inl rfl⟩, by omega, by omega⟩
  | succ shift =>
    rw [he, Nat.succ_mul] at hsplit
    exact ⟨shift, rowLength + r % rowLength, ⟨by omega, .inr (by omega)⟩, by omega, by omega⟩

/-- Larger ranks are larger magnitudes. -/
theorem unitsOfRank_strictMono : StrictMono unitsOfRank := by
  apply strictMono_nat_of_lt_succ
  intro r
  obtain ⟨shift, m, hrow, hm, rfl⟩ := exists_row r
  rw [Nat.add_assoc, unitsOfRank_eq hrow, unitsOfRank_eq (hrow.succ hm)]
  exact Nat.mul_lt_mul_of_pos_right (Nat.lt_succ_self m) (Nat.two_pow_pos shift)

/-! The fraction is `num / den`; its multiple of the least magnitude is `num * unitsOfOne / den`. -/

variable {num den : Nat}

theorem nearestRank_eq (num den : Nat) :
    nearestRank num den = ((num * unitsOfOne / den).log2 - 52) * rowLength +
      divRound (num * unitsOfOne) (den * 2 ^ ((num * unitsOfOne / den).log2 - 52)) := by
  unfold nearestRank unitsOfOne rowLength
  rfl

theorem divRound_cases (num den : Nat) :
    (divRound num den = num / den ∧ 2 * num ≤ den * (2 * (num / den) + 1)) ∨
      (divRound num den = num / den + 1 ∧ den * (2 * (num / den) + 1) ≤ 2 * num) := by
  have hsplit := Nat.div_add_mod num den
  have hmid : den * (2 * (num / den) + 1) = 2 * (den * (num / den)) + den := by ring
  unfold divRound
  simp only [Bool.or_eq_true, Bool.and_eq_true, decide_eq_true_eq, beq_iff_eq]
  split
  · exact .inr ⟨rfl, by omega⟩
  · exact .inl ⟨rfl, by omega⟩

theorem divRound_even (h : 2 * num = den * (2 * (num / den) + 1)) : divRound num den % 2 = 0 := by
  have hsplit := Nat.div_add_mod num den
  have hmid : den * (2 * (num / den) + 1) = 2 * (den * (num / den)) + den := by ring
  unfold divRound
  simp only [Bool.or_eq_true, Bool.and_eq_true, decide_eq_true_eq, beq_iff_eq]
  split <;> omega

/-- The step that the fraction falls in, by its lower end. -/
theorem exists_step (num den : Nat) :
    ∃ shift m, InRow shift m ∧ m < 2 * rowLength ∧ m = num * unitsOfOne / (den * 2 ^ shift) ∧
      nearestRank num den = shift * rowLength + divRound (num * unitsOfOne) (den * 2 ^ shift) := by
  generalize hs : num * unitsOfOne / den = s
  have hshift : ∀ shift, num * unitsOfOne / (den * 2 ^ shift) = s / 2 ^ shift := by
    intro shift
    rw [← hs, Nat.div_div_eq_div_mul]
  have hupper : s < 2 ^ (s.log2 - 52) * (2 * rowLength) := by
    have hpow : 2 ^ (s.log2 - 52) * (2 * rowLength) = 2 ^ (s.log2 - 52 + 53) :=
      (Nat.pow_add 2 _ 53).symm
    rw [hpow]
    exact Nat.lt_of_lt_of_le Nat.lt_log2_self (Nat.pow_le_pow_right Nat.two_pos (by omega))
  have hlower : s.log2 - 52 = 0 ∨ rowLength * 2 ^ (s.log2 - 52) ≤ s := by
    rcases Nat.eq_zero_or_pos (s.log2 - 52) with hzero | hpos
    · exact .inl hzero
    · right
      have hne : s ≠ 0 := by
        rintro rfl
        simp at hpos
      calc rowLength * 2 ^ (s.log2 - 52) = 2 ^ (52 + (s.log2 - 52)) := (Nat.pow_add 2 52 _).symm
        _ = 2 ^ s.log2 := congrArg (2 ^ ·) (by omega)
        _ ≤ s := Nat.log2_self_le hne
  have hlt : s / 2 ^ (s.log2 - 52) < 2 * rowLength := Nat.div_lt_of_lt_mul hupper
  have hge := hlower.imp_right (Nat.le_div_iff_mul_le (Nat.two_pow_pos _)).2
  refine ⟨s.log2 - 52, s / 2 ^ (s.log2 - 52), ⟨hlt.le, hge⟩, hlt, (hshift _).symm, ?_⟩
  rw [← hs, nearestRank_eq]

/-- The fraction lies in the step above the rank `r`, and `k` is an end of the step that is not
farther from it. -/
structure Nearer (num den r k : Nat) : Prop where
  ge : den * unitsOfRank r ≤ num * unitsOfOne
  lt : num * unitsOfOne < den * unitsOfRank (r + 1)
  side : k = r ∧ 2 * (num * unitsOfOne) ≤ den * unitsOfRank r + den * unitsOfRank (r + 1) ∨
    k = r + 1 ∧ den * unitsOfRank r + den * unitsOfRank (r + 1) ≤ 2 * (num * unitsOfOne)
  even : 2 * (num * unitsOfOne) = den * unitsOfRank r + den * unitsOfRank (r + 1) → k % 2 = 0

theorem exists_nearer (num : Nat) (hden : 0 < den) :
    ∃ r, Nearer num den r (nearestRank num den) := by
  obtain ⟨shift, m, hrow, hm, hfloor, hrank⟩ := exists_step num den
  have hlow : den * unitsOfRank (shift * rowLength + m) = den * 2 ^ shift * m := by
    rw [unitsOfRank_eq hrow]
    ring
  have hhigh : den * unitsOfRank (shift * rowLength + m + 1) = den * 2 ^ shift * (m + 1) := by
    rw [Nat.add_assoc, unitsOfRank_eq (hrow.succ hm)]
    ring
  have hmid : den * 2 ^ shift * m + den * 2 ^ shift * (m + 1) = den * 2 ^ shift * (2 * m + 1) := by
    ring
  refine ⟨shift * rowLength + m, ?_, ?_, ?_, ?_⟩
  · rw [hlow, hfloor]
    exact Nat.mul_div_le _ _
  · rw [hhigh, hfloor]
    exact Nat.lt_mul_div_succ _ (Nat.mul_pos hden (Nat.two_pow_pos shift))
  · rw [hlow, hhigh, hmid, hrank, hfloor]
    refine (divRound_cases (num * unitsOfOne) (den * 2 ^ shift)).imp ?_ ?_
    · exact fun h => ⟨by rw [h.1], h.2⟩
    · exact fun h => ⟨by rw [h.1, Nat.add_assoc], h.2⟩
  · rw [hlow, hhigh, hmid, hrank, hfloor]
    intro htie
    have hlength : rowLength = 2 * Nat.pow 2 51 := rfl
    rw [hlength, Nat.mul_left_comm, Nat.mul_add_mod]
    exact divRound_even htie

/-- No magnitude is nearer to the fraction. -/
theorem nearestRank_nearest (num : Nat) (hden : 0 < den) (r : Nat) :
    (den * unitsOfRank (nearestRank num den) - num * unitsOfOne : Int).natAbs ≤
      (den * unitsOfRank r - num * unitsOfOne : Int).natAbs := by
  obtain ⟨low, hge, hlt, hside, -⟩ := exists_nearer num hden
  have hmono : ∀ k k', k ≤ k' → den * unitsOfRank k ≤ den * unitsOfRank k' := fun _ _ h =>
    Nat.mul_le_mul_left den (unitsOfRank_strictMono.monotone h)
  rcases Nat.lt_or_ge low r with hr | hr
  · have hunits := hmono (low + 1) r hr
    rcases hside with ⟨hk, hhalf⟩ | ⟨hk, hhalf⟩ <;> rw [hk] <;> omega
  · have hunits := hmono r low hr
    rcases hside with ⟨hk, hhalf⟩ | ⟨hk, hhalf⟩ <;> rw [hk] <;> omega

/-- If another magnitude is as near, the rank is even. -/
theorem nearestRank_even (hden : 0 < den) {r : Nat} (hr : r ≠ nearestRank num den)
    (htie : (den * unitsOfRank r - num * unitsOfOne : Int).natAbs =
      (den * unitsOfRank (nearestRank num den) - num * unitsOfOne : Int).natAbs) :
    nearestRank num den % 2 = 0 := by
  obtain ⟨low, hge, hlt, hside, heven⟩ := exists_nearer num hden
  have hmono : ∀ k k', k < k' → den * unitsOfRank k < den * unitsOfRank k' := fun _ _ h =>
    Nat.mul_lt_mul_of_pos_left (unitsOfRank_strictMono h) hden
  apply heven
  rcases hside with ⟨hk, hhalf⟩ | ⟨hk, hhalf⟩ <;> rw [hk] at hr htie
  · rcases Nat.lt_or_gt_of_ne hr with hlow | hhigh
    · have hunits := hmono r low hlow
      omega
    · by_cases hnext : r = low + 1
      · rw [hnext] at htie
        omega
      · have hunits := hmono (low + 1) r (by omega)
        omega
  · rcases Nat.lt_or_gt_of_ne hr with hlow | hhigh
    · by_cases hlast : r = low
      · rw [hlast] at htie
        omega
      · have hunits := hmono r low (by omega)
        omega
    · have hunits := hmono (low + 1) r hhigh
      omega

/-! Among the numbers the largest one is the nearest to everything beyond it. -/

variable {x y : Binary64} {v w : Int}

/-- Rounding to nearest: no number is nearer to `v`, and of two that are equally near it is the one
of even rank. Here `v` and the values count multiples of the least positive magnitude. -/
structure Rounds (x : Binary64) (v : Int) : Prop where
  nearest : ∀ y : Binary64, (x.scaled - v).natAbs ≤ (y.scaled - v).natAbs
  even : ∀ y : Binary64, y.scaled ≠ x.scaled →
    (y.scaled - v).natAbs = (x.scaled - v).natAbs → x.rank % 2 = 0

theorem rounds_scaled (x : Binary64) : x.Rounds x.scaled where
  nearest := by
    intro y
    omega
  even := by
    intro y hne htie
    omega

theorem Rounds.scaled_eq (h : x.Rounds y.scaled) : x.scaled = y.scaled := by
  have hself := h.nearest y
  omega

/-- Rounding keeps the order. -/
theorem Rounds.scaled_le (hx : x.Rounds v) (hy : y.Rounds w) (h : v < w) : x.scaled ≤ y.scaled := by
  have hxy := hx.nearest y
  have hyx := hy.nearest x
  omega

theorem units_le (x : Binary64) : x.units ≤ unitsOfRank (ranks - 1) :=
  unitsOfRank_strictMono.monotone (Nat.le_sub_one_of_lt x.rank_lt)

theorem units_eq_zero_iff (x : Binary64) : x.units = 0 ↔ x.rank = 0 := by
  rw [← unitsOfRank_zero]
  exact unitsOfRank_strictMono.injective.eq_iff

theorem units_ofInt (i : Int) :
    (ofInt i).rank = nearestRank i.natAbs 1 ∨
      (ofInt i).units = unitsOfRank (ranks - 1) ∧ (ofInt i).units ≤ i.natAbs * unitsOfOne := by
  rcases Nat.lt_or_ge (ranks - 1) (nearestRank i.natAbs 1) with hlarge | hfits
  · right
    have hunits : (ofInt i).units = unitsOfRank (ranks - 1) :=
      congrArg unitsOfRank (Nat.min_eq_right hlarge.le)
    obtain ⟨low, hge, -, hside, -⟩ := exists_nearer i.natAbs Nat.one_pos
    have hlow : ranks - 1 ≤ low := by omega
    have hle := unitsOfRank_strictMono.monotone hlow
    exact ⟨hunits, by omega⟩
  · exact .inl (Nat.min_eq_left hfits)

theorem units_ofInt_nearest (i : Int) (y : Binary64) :
    ((ofInt i).units - i.natAbs * unitsOfOne : Int).natAbs ≤
      (y.units - i.natAbs * unitsOfOne : Int).natAbs := by
  rcases units_ofInt i with hrank | ⟨hunits, hle⟩
  · have hnearest := nearestRank_nearest i.natAbs Nat.one_pos y.rank
    rw [Nat.cast_one, one_mul, one_mul, ← hrank] at hnearest
    exact hnearest
  · have hy := y.units_le
    omega

theorem even_rank_ofInt {i : Int} (hne : y.units ≠ (ofInt i).units)
    (htie : (y.units - i.natAbs * unitsOfOne : Int).natAbs =
      ((ofInt i).units - i.natAbs * unitsOfOne : Int).natAbs) : (ofInt i).rank % 2 = 0 := by
  rcases units_ofInt i with hrank | ⟨hunits, hle⟩
  · have heven := @nearestRank_even i.natAbs 1 Nat.one_pos y.rank
    rw [Nat.cast_one, one_mul, one_mul, ← hrank] at heven
    exact heven (fun h => hne (congrArg unitsOfRank h)) htie
  · have hy := y.units_le
    omega

theorem mul_unitsOfOne (i : Int) : i * unitsOfOne =
    if decide (i < 0) then -(i.natAbs * unitsOfOne : Int) else i.natAbs * unitsOfOne := by
  split
  · next hi =>
    rw [Int.ofNat_natAbs_of_nonpos (of_decide_eq_true hi).le, Int.neg_mul, Int.neg_neg]
  · next hi => rw [Int.natAbs_of_nonneg (by simpa using hi)]

theorem units_default : (default : Binary64).units = 0 := unitsOfRank_zero

theorem scaled_eq_or (x : Binary64) : x.scaled = x.units ∨ x.scaled = -(x.units : Int) := by
  unfold scaled
  split
  · exact .inr rfl
  · exact .inl rfl

/-- An integer and the number it becomes have the same sign. -/
theorem scaled_ofInt_cases (i : Int) :
    (ofInt i).scaled = (ofInt i).units ∧ i * unitsOfOne = i.natAbs * unitsOfOne ∨
      (ofInt i).scaled = -((ofInt i).units : Int) ∧
        i * unitsOfOne = -(i.natAbs * unitsOfOne : Int) := by
  have hx : (ofInt i).scaled =
      if decide (i < 0) then -((ofInt i).units : Int) else (ofInt i).units := rfl
  rw [hx, mul_unitsOfOne]
  split
  · exact .inr ⟨rfl, rfl⟩
  · exact .inl ⟨rfl, rfl⟩

/-- Integers are rounded to the nearest number. -/
theorem rounds_ofInt (i : Int) : (ofInt i).Rounds (i * unitsOfOne) := by
  have hnonneg : (0 : Int) ≤ i.natAbs * unitsOfOne := Int.mul_nonneg (by omega) (by omega)
  have hzero := units_ofInt_nearest i default
  rw [units_default] at hzero
  have hcases := scaled_ofInt_cases i
  constructor
  · intro y
    have hnearest := units_ofInt_nearest i y
    have hy := y.scaled_eq_or
    -- the two large products are atoms for what follows
    generalize (i.natAbs : Int) * unitsOfOne = magnitude at *
    generalize i * (unitsOfOne : Int) = v at *
    omega
  · intro y hne htie
    have hnearest := units_ofInt_nearest i y
    have hy := y.scaled_eq_or
    have heven := @even_rank_ofInt y i
    generalize (i.natAbs : Int) * unitsOfOne = magnitude at *
    generalize i * (unitsOfOne : Int) = v at *
    exact heven (by omega) (by omega)

/-! Integers up to the length of two rows are numbers themselves. -/

theorem exists_shift {n : Nat} (hpos : n ≠ 0) (h : n ≤ 2 * rowLength) :
    ∃ j ≤ 52, rowLength ≤ n * 2 ^ j ∧ n * 2 ^ j ≤ 2 * rowLength := by
  refine ⟨52 - n.log2, Nat.sub_le _ _, ?_, ?_⟩
  · calc rowLength = 2 ^ 52 := rfl
      _ ≤ 2 ^ (n.log2 + (52 - n.log2)) := Nat.pow_le_pow_right Nat.two_pos (by omega)
      _ = 2 ^ n.log2 * 2 ^ (52 - n.log2) := Nat.pow_add ..
      _ ≤ n * 2 ^ (52 - n.log2) := Nat.mul_le_mul_right _ (Nat.log2_self_le hpos)
  · rcases Nat.lt_or_ge 52 n.log2 with hlog | hlog
    · rw [Nat.sub_eq_zero_of_le hlog.le, Nat.pow_zero, Nat.mul_one]
      exact h
    · calc n * 2 ^ (52 - n.log2) ≤ 2 ^ (n.log2 + 1) * 2 ^ (52 - n.log2) :=
          Nat.mul_le_mul_right _ Nat.lt_log2_self.le
        _ = 2 ^ (n.log2 + 1 + (52 - n.log2)) := (Nat.pow_add ..).symm
        _ = 2 ^ 53 := congrArg (2 ^ ·) (by omega)
        _ = 2 * rowLength := rfl

theorem exists_unitsOfRank_eq {n : Nat} (h : n ≤ 2 * rowLength) :
    ∃ r < ranks, unitsOfRank r = n * unitsOfOne := by
  have hranks : ranks = 2047 * rowLength := rfl
  have hpos := rowLength_pos
  by_cases hn : n = 0
  · exact ⟨0, by omega, by rw [hn, unitsOfRank_zero, Nat.zero_mul]⟩
  · obtain ⟨j, hj, hge, hle⟩ := exists_shift hn h
    have hbound := Nat.mul_le_mul_right rowLength (Nat.sub_le 1074 j)
    refine ⟨(1074 - j) * rowLength + n * 2 ^ j, by omega, ?_⟩
    rw [unitsOfRank_eq ⟨hle, .inr hge⟩, Nat.mul_assoc, ← Nat.pow_add,
      two_pow_eq_unitsOfOne (by omega)]

theorem scaled_ofInt {i : Int} (h : i.natAbs ≤ 2 * rowLength) :
    (ofInt i).scaled = i * unitsOfOne := by
  obtain ⟨r, hr, hunits⟩ := exists_unitsOfRank_eq h
  have hy : scaled ⟨decide (i < 0), r, hr⟩ = i * unitsOfOne := by
    rw [mul_unitsOfOne, ← Int.natCast_mul, ← hunits]
    rfl
  rw [← hy]
  exact (hy ▸ rounds_ofInt i).scaled_eq

/-! The order of the numbers is that of their places. -/

theorem scaled_lt_iff : x.scaled < y.scaled ↔ x.position < y.position := by
  have hxy : x.units < y.units ↔ x.rank < y.rank := unitsOfRank_strictMono.lt_iff_lt
  have hyx : y.units < x.units ↔ y.rank < x.rank := unitsOfRank_strictMono.lt_iff_lt
  have hx := x.units_eq_zero_iff
  have hy := y.units_eq_zero_iff
  unfold scaled position
  split <;> split <;> omega

theorem scaled_eq_iff : x.scaled = y.scaled ↔ x.position = y.position := by
  have hxy := @scaled_lt_iff x y
  have hyx := @scaled_lt_iff y x
  omega

theorem natAbs_position (x : Binary64) : x.position.natAbs = x.rank := by
  unfold position
  split <;> omega

theorem exists_position {p : Int} (hx : x.position ≤ p) (hy : p ≤ y.position) :
    ∃ z : Binary64, z.position = p := by
  have hrank : p.natAbs < ranks := by
    have hx' := x.natAbs_position ▸ x.rank_lt
    have hy' := y.natAbs_position ▸ y.rank_lt
    omega
  refine ⟨⟨decide (p < 0), p.natAbs, hrank⟩, ?_⟩
  change (if decide (p < 0) then -(p.natAbs : Int) else p.natAbs) = p
  simp only [decide_eq_true_eq]
  split <;> omega

/-! Rounding has one result, up to the sign of zero. -/

theorem Rounds.congr (h : y.Rounds v) (hposition : x.position = y.position) : x.Rounds v := by
  have hscaled := scaled_eq_iff.2 hposition
  have hrank : x.rank = y.rank := by rw [← natAbs_position, ← natAbs_position, hposition]
  constructor
  · rw [hscaled]
    exact h.nearest
  · rw [hscaled, hrank]
    exact h.even

/-- Two numbers that are equally near have even places, so that there is a nearer one between. -/
theorem Rounds.not_lt (hx : x.Rounds v) (hy : y.Rounds v) : ¬ x.scaled < y.scaled := by
  intro hlt
  have hdistance := Nat.le_antisymm (hx.nearest y) (hy.nearest x)
  have hxeven := hx.even y hlt.ne' hdistance.symm
  have hyeven := hy.even x hlt.ne hdistance
  have hxrank := x.natAbs_position
  have hyrank := y.natAbs_position
  have hposition := scaled_lt_iff.1 hlt
  obtain ⟨z, hz⟩ := @exists_position x y (x.position + 1) (by omega) (by omega)
  have hxz := scaled_lt_iff.2 (show x.position < z.position by omega)
  have hzy := scaled_lt_iff.2 (show z.position < y.position by omega)
  have hnearest := hx.nearest z
  omega

theorem Rounds.position_eq (hx : x.Rounds v) (hy : y.Rounds v) : x.position = y.position := by
  have hxy := hx.not_lt hy
  have hyx := hy.not_lt hx
  exact scaled_eq_iff.1 (by omega)

end IndexPlanner.Binary64

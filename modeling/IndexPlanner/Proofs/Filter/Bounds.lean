import IndexPlanner.Proofs.Filter.Leaf

/-! What a filter says of the leaf that it is made of, on the bins that an index can hold. The
integers that it asks for are those of a signed word up to both ends; above the greatest and below
the least there is nothing to ask for. -/
namespace IndexPlanner

open Json (Document Members Number Token Value)

namespace IndexFilter

variable {l : Leaf} {f : IndexFilter} {p : Predicate} {bins : Members} {k low high : Int}

/-! The ends of the intervals. -/

theorem bounds_of_int64? {v : Value} (h : v.int64? = some k) : minInt ≤ k ∧ k ≤ maxInt := by
  obtain ⟨_, _, hn⟩ := Value.int64?_eq_some_iff.1 h
  exact Number.int64?_bounds hn

theorem bounds_of_ofEqual? {bin : String} {v : Value} (h : ofEqual? bin v = some f)
    (hf : f.interval? = some (low, high)) : minInt ≤ low ∧ low ≤ high ∧ high ≤ maxInt := by
  cases v with
  | number n =>
    obtain ⟨k, hk, rfl⟩ := Option.map_eq_some_iff.1 h
    cases hf
    have hb := Number.int64?_bounds hk
    omega
  | string s =>
    cases h
    cases hf
  | _ => cases h

/-- The ends of an interval are integers of signed words, and there is something between them. -/
theorem bounds_of_ofLeaf? (h : ofLeaf? l = some f) (hf : f.interval? = some (low, high)) :
    minInt ≤ low ∧ low ≤ high ∧ high ≤ maxInt := by
  unfold ofLeaf? at h
  split at h
  · cases h
  · split at h
    · exact bounds_of_ofEqual? h hf
    · obtain ⟨k, hk, hlt, rfl⟩ := ofGreater?_eq_some_iff.1 h
      cases hf
      have hb := bounds_of_int64? hk
      omega
    · obtain ⟨k, hk, rfl⟩ := ofAtLeast?_eq_some_iff.1 h
      cases hf
      have hb := bounds_of_int64? hk
      omega
    · obtain ⟨k, hk, hlt, rfl⟩ := ofLess?_eq_some_iff.1 h
      cases hf
      have hb := bounds_of_int64? hk
      omega
    · obtain ⟨k, hk, rfl⟩ := ofAtMost?_eq_some_iff.1 h
      cases hf
      have hb := bounds_of_int64? hk
      omega
    · obtain ⟨_, _, hlow, ⟨_, _, hhigh⟩, hle, rfl⟩ := ofBetween?_eq_some_iff.1 h
      cases hf
      exact ⟨(bounds_of_int64? hlow).1, hle, (bounds_of_int64? hhigh).2⟩
    · obtain ⟨r, _, rfl⟩ := Option.map_eq_some_iff.1 h
      cases hf
    · cases h

theorem isCaseInsensitive_of_int64? (hk : l.operand.int64? = some k) :
    l.isCaseInsensitive = false := by
  obtain ⟨n, hl, _⟩ := Value.int64?_eq_some_iff.1 hk
  simp [Leaf.isCaseInsensitive, hl, Value.isString]

/-- Above the greatest integer there is nothing to ask for. -/
theorem ofLeaf?_greater_eq_none_iff (hop : l.operation = .compare .greater)
    (hk : l.operand.int64? = some k) : ofLeaf? l = none ↔ k = maxInt := by
  have hb := bounds_of_int64? hk
  simp only [ofLeaf?, isCaseInsensitive_of_int64? hk, hop, ofGreater?, hk, Option.bind_some,
    Bool.false_eq_true, if_false, ite_eq_right_iff, reduceCtorEq, imp_false]
  omega

/-- Below the least integer there is nothing to ask for. -/
theorem ofLeaf?_less_eq_none_iff (hop : l.operation = .compare .less)
    (hk : l.operand.int64? = some k) : ofLeaf? l = none ↔ k = minInt := by
  have hb := bounds_of_int64? hk
  simp only [ofLeaf?, isCaseInsensitive_of_int64? hk, hop, ofLess?, hk, Option.bind_some,
    Bool.false_eq_true, if_false, ite_eq_right_iff, reduceCtorEq, imp_false]
  omega

/-! The records that are overlooked. -/

/-- Of the records that satisfy the leaf those are not overlooked that hold an integer of a signed
word, when it is integers that the filter asks for. -/
theorem Translates.not_overlooks_iff (h : Translates l f p) (hp : p.accepts bins = true) :
    ¬ l.Overlooks bins ↔
      (f.interval?.isSome = true → ∃ i, (bins.get? l.field).bind Value.int64? = some i) := by
  cases h with
  | interval hbin hf ht hl =>
    rw [Predicate.accepts, Option.any_eq_true] at hp
    obtain ⟨v, hv, ha⟩ := hp
    obtain ⟨n, rfl⟩ := Value.isNumber_iff.1 (ht.isNumber ha)
    have hover : l.Overlooks bins ↔ n.int64? = none := by
      simp [Leaf.Overlooks, hl, hv]
    have hint : (Value.number n).int64? = n.int64? := rfl
    rw [hover, hf, hv, Option.bind_some, hint, Option.isSome_some, forall_prop_of_true rfl,
      ← ne_eq, Option.ne_none_iff_exists']
  | text hl =>
    have hover := not_overlooks (l := l) (by rw [hl]; rfl) bins
    simp [hover, interval?]
  | region hop hl =>
    have hover := not_overlooks (isNumber_of_ofValue? hl) bins
    simp [hover, interval?]

/-- A filter means what the leaf means that it is made of, on the bins that an index can hold: the
leaf has a predicate, and a record answers the filter when it satisfies the predicate and, should
the filter ask for integers, holds an integer of a signed word in the bin of the leaf. The ends of
what it asks for are such integers themselves; so there is no filter above the greatest of them or
below the least. -/
theorem accepts_iff_of_ofLeaf? (l : Leaf)
    (hback : l.operation = .geoWithin → l.OperandReadsBack) :
    (∀ f, ofLeaf? l = some f →
      (∃ p, Predicate.ofQualifier (.leaf l) = .ok p ∧ ∀ bins : Members, f.accepts bins = true ↔
        p.accepts bins = true ∧
          (f.interval?.isSome = true → ∃ i, (bins.get? l.field).bind Value.int64? = some i)) ∧
      ∀ low high, f.interval? = some (low, high) → minInt ≤ low ∧ low ≤ high ∧ high ≤ maxInt) ∧
    ∀ k, l.operand.int64? = some k →
      (l.operation = .compare .greater → (ofLeaf? l = none ↔ k = maxInt)) ∧
      (l.operation = .compare .less → (ofLeaf? l = none ↔ k = minInt)) := by
  constructor
  · intro f hf
    obtain ⟨p, hp, htrans⟩ := exists_translates hf
    refine ⟨⟨p, by rw [Predicate.ofQualifier, hp], ?_⟩, fun low high => bounds_of_ofLeaf? hf⟩
    intro bins
    rw [htrans.accepts_iff hback]
    exact and_congr_right htrans.not_overlooks_iff
  · intro k hk
    exact ⟨fun hop => ofLeaf?_greater_eq_none_iff hop hk,
      fun hop => ofLeaf?_less_eq_none_iff hop hk⟩

/-! A filter at the end of the integers, and one for a region. -/

/-- The circle of one metre around the origin. -/
def unitCircle : Value :=
  .ofMembers [("type", .string "AeroCircle"),
    ("coordinates", .array [.array [.ofInt 0, .ofInt 0], .ofInt 1])]

theorem read_unitCircle : Value.read unitCircle.text = some unitCircle := by
  have htext : unitCircle.text =
      "\x7b\"coordinates\":[[0,0],1],\"type\":\"AeroCircle\"\x7d" := by decide +kernel
  have htokens : Token.ofText "\x7b\"coordinates\":[[0,0],1],\"type\":\"AeroCircle\"\x7d" =
      [.openObject, .text (some "coordinates"), .colon, .openArray, .openArray,
        .number (some (.ofInt 0)), .comma, .number (some (.ofInt 0)), .closeArray, .comma,
        .number (some (.ofInt 1)), .closeArray, .comma, .text (some "type"), .colon,
        .text (some "AeroCircle"), .closeObject] := by decide +kernel
  rw [htext, Value.read, Document.read, htokens]
  rfl

/-- A leaf on the integers above the last but one. -/
def oldest : Leaf :=
  { field := "age", operation := .compare .greater, operand := .ofInt 0x7ffffffffffffffe }

/-- A leaf on the points of the circle. -/
def atHome : Leaf := { field := "home", operation := .geoWithin, operand := unitCircle }

/-- The filter above the last but one asks for the last, and passes over an integer beyond the
signed words that the leaf accepts. The filter for a circle differs in nothing from its leaf. -/
theorem accepts_iff_of_ofLeaf?_last :
    (∃ p, Predicate.ofQualifier (.leaf oldest) = .ok p ∧
      ofLeaf? oldest = some (.range "age" maxInt maxInt) ∧
      p.accepts [("age", .ofInt 0xffffffffffffffff)] = true ∧
      (range "age" maxInt maxInt).accepts [("age", .ofInt 0xffffffffffffffff)] = false) ∧
    ∃ f p, ofLeaf? atHome = some f ∧ Predicate.ofQualifier (.leaf atHome) = .ok p ∧
      ∀ bins : Members, f.accepts bins = true ↔ p.accepts bins = true := by
  constructor
  · have hf : ofLeaf? oldest = some (.range "age" maxInt maxInt) := rfl
    have hp : Predicate.ofQualifier (.leaf oldest) =
        .ok (.compare "age" (.greater oldest.operand)) := rfl
    obtain ⟨⟨p, hp', hiff⟩, _⟩ := (accepts_iff_of_ofLeaf? oldest (by rintro ⟨⟩)).1 _ hf
    rw [hp] at hp'
    cases hp'
    refine ⟨_, hp, hf, by decide +kernel, ?_⟩
    rw [Bool.eq_false_iff, ne_eq, hiff]
    rintro ⟨_, hint⟩
    obtain ⟨i, hi⟩ := hint rfl
    cases hi
  · have hf : ofLeaf? atHome = some (.within "home" unitCircle.text) := rfl
    obtain ⟨⟨p, hp, hiff⟩, _⟩ :=
      (accepts_iff_of_ofLeaf? atHome fun _ _ _ => read_unitCircle).1 _ hf
    refine ⟨_, p, hf, hp, ?_⟩
    intro bins
    rw [hiff, and_iff_left]
    rintro ⟨⟩

end IndexFilter

end IndexPlanner

import IndexPlanner.Proofs.Qualifier.Meaning
import Mathlib.Data.List.Forall2

/-! Maps looked through as lists. The values of a map answer as the list of them does, and its keys
as a list of texts. Next to a number a key counts as the number that it spells: keys that spell
integers of a signed word answer as the list of these integers. -/
namespace IndexPlanner

open Json (Members Value)

namespace MapKey

open Text

/-- Decimal digits, at least one. -/
structure IsDigits (cs : List Char) : Prop where
  ne_nil : cs ≠ []
  isDigit : ∀ c ∈ cs, c.isDigit = true

/-- The characters are those of an integer in decimal: digits, zeros before them or none, and a sign
or none. -/
inductive Spells : List Char → Int → Prop
  | unsigned {digits : List Char} (h : IsDigits digits) : Spells digits (natOfDigits digits)
  | plus {digits : List Char} (h : IsDigits digits) : Spells ('+' :: digits) (natOfDigits digits)
  | minus {digits : List Char} (h : IsDigits digits) :
      Spells ('-' :: digits) (-(natOfDigits digits : Int))

/-- The integer fits a signed word, and the key is a text of it. -/
structure SpellsWord (key : String) (i : Int) : Prop where
  spells : Spells key.toList i
  least : -0x8000000000000000 ≤ i
  greatest : i < 0x8000000000000000

theorem isDigits_digitsOf (n : Nat) : IsDigits (digitsOf n) :=
  ⟨Nat.toDigits_ne_nil, fun _ hc => Nat.isDigit_of_mem_toDigits (by decide) (by decide) hc⟩

theorem natOfDigits_digitsOf (n : Nat) : natOfDigits (digitsOf n) = n :=
  Nat.ofDigitChars_toDigits (by decide) (by decide)

/-- The text that an integer is written as spells it. -/
theorem spells_intText (i : Int) : Spells (intText i).toList i := by
  rw [intText, String.toList_ofList]
  have hdigits := isDigits_digitsOf i.natAbs
  by_cases hneg : i < 0
  · have hminus := Spells.minus hdigits
    rw [natOfDigits_digitsOf, show -(i.natAbs : Int) = i by omega] at hminus
    rwa [if_pos hneg]
  · have hunsigned := Spells.unsigned hdigits
    rw [natOfDigits_digitsOf, show (i.natAbs : Int) = i by omega] at hunsigned
    rwa [if_neg hneg]

theorem splitSign_of_isDigits {digits : List Char} (h : IsDigits digits) :
    splitSign digits = (false, digits) := by
  unfold splitSign
  split
  · exact absurd (h.isDigit '+' List.mem_cons_self) (by decide)
  · exact absurd (h.isDigit '-' List.mem_cons_self) (by decide)
  · rfl

theorem integer?_of_splitSign {cs digits : List Char} {negative : Bool} {i : Int}
    (hsplit : splitSign cs = (negative, digits)) (h : IsDigits digits)
    (hi : i = if negative then -(natOfDigits digits : Int) else natOfDigits digits)
    (hleast : -0x8000000000000000 ≤ i) (hgreatest : i < 0x8000000000000000) :
    integer? cs = some i := by
  have hrow : ¬ (digits = [] ∨ digits.any (!·.isDigit) = true) := by
    rintro (hnil | hany)
    · exact h.ne_nil hnil
    · obtain ⟨c, hc, hnot⟩ := List.any_eq_true.1 hany
      rw [h.isDigit c hc] at hnot
      cases hnot
  simp only [integer?, hsplit]
  rw [if_neg hrow, ← hi, if_pos ⟨hleast, hgreatest⟩]

theorem integer?_of_spellsWord {key : String} {i : Int} (h : SpellsWord key i) :
    integer? key.toList = some i := by
  obtain ⟨hspells, hleast, hgreatest⟩ := h
  generalize key.toList = cs at hspells
  cases hspells with
  | unsigned hdigits =>
    exact integer?_of_splitSign (splitSign_of_isDigits hdigits) hdigits rfl hleast hgreatest
  | plus hdigits => exact integer?_of_splitSign rfl hdigits rfl hleast hgreatest
  | minus hdigits => exact integer?_of_splitSign rfl hdigits rfl hleast hgreatest

/-! What a key counts as. -/

theorem value_of_isNumber_eq_false {v : Value} (h : v.isNumber = false) (key : String) :
    value key (some v) = .string key := by
  rw [value, Option.any_some, h, if_neg Bool.false_ne_true]

theorem value_of_spellsWord {v : Value} (h : v.isNumber = true) {key : String} {i : Int}
    (hkey : SpellsWord key i) : value key (some v) = .ofInt i := by
  rw [value, Option.any_some, if_pos h, integer?_of_spellsWord hkey]

theorem map_value_of_spellsWord {v : Value} (h : v.isNumber = true) {keys : List String}
    {is : List Int} (hkeys : List.Forall₂ SpellsWord keys is) :
    keys.map (value · (some v)) = is.map .ofInt := by
  induction hkeys with
  | nil => rfl
  | cons hkey _ ih => rw [List.map_cons, List.map_cons, value_of_spellsWord h hkey, ih]

end MapKey

namespace ValueTest

variable (t : ValueTest) (m : Members)

theorem acceptsSome_mapValues :
    t.acceptsSome .mapValues (.object m) = t.acceptsSome .list (.array m.values) := rfl

theorem acceptsSome_mapKeys : t.acceptsSome .mapKeys (.object m) =
    t.acceptsSome .list (.array (m.keys.map (MapKey.value · t.operand?))) := by
  rw [acceptsSome, acceptsSome, List.any_map]
  rfl

end ValueTest

namespace Leaf

variable {l : Leaf} {membership : Membership}

/-- The operands of the leaf, asked of a part of a collection. -/
def searching (l : Leaf) (shape : Shape) (membership : Membership) : Leaf :=
  { l with operation := .search shape membership }

/-- The operands that the question takes are there. -/
def HasOperands (l : Leaf) (membership : Membership) : Prop :=
  membership = .between → ∃ v, l.upper = some v

/-- The test is that of the leaf's operands, whatever part is looked through. -/
theorem exists_elementTest (h : l.HasOperands membership) :
    ∃ t : ValueTest, t.operand? = some l.operand ∧
      ∀ shape, Predicate.ofQualifier (.leaf (l.searching shape membership)) =
        .ok (.search l.field shape t) := by
  cases membership with
  | contains => exact ⟨.equal l.operand, rfl, fun _ => rfl⟩
  | between =>
    obtain ⟨v, hv⟩ := h rfl
    refine ⟨.between l.operand v, rfl, fun shape => ?_⟩
    simp only [Predicate.ofQualifier, Predicate.ofLeaf, searching, Predicate.elementTest,
      Predicate.upper, hv, Except.map]

/-- A part of the map answers the leaf as the list of the items does, in records that hold the one
and the other. -/
def SearchesAs (l : Leaf) (membership : Membership) (shape : Shape) (m : Members)
    (items : List Value) : Prop :=
  ∀ bins bins' : Members, bins.get? l.field = some (.object m) →
    bins'.get? l.field = some (.array items) →
    ((Qualifier.leaf (l.searching shape membership)).Holds bins ↔
      (Qualifier.leaf (l.searching .list membership)).Holds bins')

theorem searchesAs_of_acceptsSome {t : ValueTest} {shape : Shape} {m : Members}
    {items : List Value}
    (ht : ∀ shape, Predicate.ofQualifier (.leaf (l.searching shape membership)) =
      .ok (.search l.field shape t))
    (h : t.acceptsSome shape (.object m) = t.acceptsSome .list (.array items)) :
    l.SearchesAs membership shape m items := by
  intro bins bins' hbins hbins'
  rw [Qualifier.holds_iff (ht shape), Qualifier.holds_iff (ht .list), Predicate.accepts,
    Predicate.accepts, hbins, hbins', Option.any_some, Option.any_some, h]

/-- Questions about a map are questions about a list. With the operands that it takes, the question
can be asked of every kind of collection. The values of a map answer as their list; the keys answer
as a list of texts when the first operand is no number, and otherwise, when each key spells an
integer of a signed word, as the list of these integers. -/
theorem search_map_as_list (l : Leaf) (membership : Membership) (h : l.HasOperands membership) :
    (∀ shape, (Qualifier.leaf (l.searching shape membership)).Compiles) ∧
    ∀ m : Members,
      l.SearchesAs membership .mapValues m m.values ∧
      (l.operand.isNumber = false →
        l.SearchesAs membership .mapKeys m (m.keys.map .string)) ∧
      (l.operand.isNumber = true → ∀ is : List Int, List.Forall₂ MapKey.SpellsWord m.keys is →
        l.SearchesAs membership .mapKeys m (is.map .ofInt)) := by
  obtain ⟨t, hoperand, ht⟩ := exists_elementTest h
  refine ⟨fun shape => ⟨_, ht shape⟩, fun m => ⟨?_, ?_, ?_⟩⟩
  · exact searchesAs_of_acceptsSome ht (t.acceptsSome_mapValues m)
  · intro hnumber
    refine searchesAs_of_acceptsSome ht ?_
    rw [t.acceptsSome_mapKeys, hoperand,
      List.map_congr_left fun key _ => MapKey.value_of_isNumber_eq_false hnumber key]
  · intro hnumber is hkeys
    refine searchesAs_of_acceptsSome ht ?_
    rw [t.acceptsSome_mapKeys, hoperand, MapKey.map_value_of_spellsWord hnumber hkeys]

/-! A map whose keys are integers in three spellings, and a question with numbers for its operands. -/

/-- From five to ten, whatever is asked. -/
def fiveToTen : Leaf :=
  { field := "scores", operation := .search .mapKeys .between, operand := .ofInt 5,
    upper := some (.ofInt 10) }

/-- Scores by the integers twelve, minus seven and seven. -/
def spelled : Members := [("+12", .null), ("-7", .string "low"), ("007", .string "high")]

/-- Seven is among the integers, so the map answers. -/
theorem search_map_as_list_spelled :
    fiveToTen.HasOperands .between ∧ List.Forall₂ MapKey.SpellsWord spelled.keys [12, -7, 7] ∧
    (Qualifier.leaf (fiveToTen.searching .mapKeys .between)).Holds
      [("scores", .object spelled)] := by
  have hoperands : fiveToTen.HasOperands .between := fun _ => ⟨_, rfl⟩
  have hplus : MapKey.Spells ['+', '1', '2'] 12 :=
    .plus ⟨by decide, List.all_eq_true.1 (by decide)⟩
  have hzeros : MapKey.Spells ['0', '0', '7'] 7 :=
    .unsigned ⟨by decide, List.all_eq_true.1 (by decide)⟩
  have hminus : MapKey.Spells "-7".toList (-7) := by
    rw [show "-7" = Text.intText (-7) by decide]
    exact MapKey.spells_intText (-7)
  have hkeys : List.Forall₂ MapKey.SpellsWord spelled.keys [12, -7, 7] :=
    .cons ⟨hplus, by decide, by decide⟩ <| .cons ⟨hminus, by decide, by decide⟩ <|
      .cons ⟨hzeros, by decide, by decide⟩ .nil
  obtain ⟨_, hmap⟩ := search_map_as_list fiveToTen .between hoperands
  have hsame := (hmap spelled).2.2 rfl _ hkeys [("scores", .object spelled)]
    [("scores", .array [.ofInt 12, .ofInt (-7), .ofInt 7])] rfl rfl
  exact ⟨hoperands, hkeys, hsame.2 ⟨_, rfl, by decide +kernel⟩⟩

end Leaf

end IndexPlanner

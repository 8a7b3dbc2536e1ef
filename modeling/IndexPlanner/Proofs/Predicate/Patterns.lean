import IndexPlanner.Proofs.Filter.Leaf
import IndexPlanner.Proofs.Regex.Sequence
import Mathlib.Tactic.FinCases

/-! Texts are looked for as they are. A string matches when it holds the characters of the text at
the place that the operation asks for. The expression that a pattern is written as says the same:
every character of the text that would be a sign stands behind a backslash. -/
namespace IndexPlanner

open Json (Members Value)
open Text (SameLetter)

namespace Text

/-- What is compared of a character. -/
def letter (ignoreCase : Bool) (c : Char) : Char := if ignoreCase then foldCase c else c

theorem sameLetter_iff {ignoreCase : Bool} {c d : Char} :
    SameLetter ignoreCase c d ↔ letter ignoreCase c = letter ignoreCase d := by
  cases ignoreCase <;> rfl

theorem SameLetter.ignoringCase {ignoreCase : Bool} {c d : Char} (h : SameLetter ignoreCase c d) :
    SameLetter true c d := by
  cases ignoreCase with
  | false => exact congrArg foldCase h
  | true => exact h

theorem forall₂_sameLetter_iff {ignoreCase : Bool} {t v : List Char} :
    List.Forall₂ (SameLetter ignoreCase) t v ↔
      t.map (letter ignoreCase) = v.map (letter ignoreCase) := by
  rw [← List.forall₂_eq_eq_eq, List.forall₂_map_left_iff, List.forall₂_map_right_iff]
  exact ⟨fun h => h.imp fun _ _ => sameLetter_iff.1, fun h => h.imp fun _ _ => sameLetter_iff.2⟩

end Text

namespace Place

/-- Nothing stands before the text. -/
def opens (place : Place) : Bool := place == .whole || place == .atStart

/-- Nothing stands behind the text. -/
def closes (place : Place) : Bool := place == .whole || place == .atEnd

end Place

namespace Pattern

variable {p : Pattern} {place : Place} {s : String} {t cs : List Char}

/-- The string is a row with the text at its place, letter by letter. -/
def Splits (p : Pattern) (s : String) : Prop :=
  ∃ u v w, s.toList = u ++ v ++ w ∧ List.Forall₂ (SameLetter p.ignoreCase) p.text.toList v ∧
    (p.place.opens = true → u = []) ∧ (p.place.closes = true → w = [])

/-! What a pattern accepts. -/

theorem occursIn_iff : occursIn t cs = true ↔ t <:+: cs := by
  induction cs with
  | nil => rw [occursIn, List.isEmpty_iff, List.infix_nil]
  | cons c cs ih =>
    rw [occursIn, Bool.or_eq_true, List.isPrefixOf_iff_prefix, ih, List.infix_cons_iff]

theorem found_iff : found place t cs = true ↔
    ∃ u w, cs = u ++ t ++ w ∧ (place.opens = true → u = []) ∧ (place.closes = true → w = []) := by
  cases place with
  | whole =>
    rw [found, beq_iff_eq]
    constructor
    · rintro rfl
      exact ⟨[], [], (List.append_nil _).symm, fun _ => rfl, fun _ => rfl⟩
    · rintro ⟨u, w, rfl, hu, hw⟩
      rw [hu rfl, hw rfl, List.nil_append, List.append_nil]
  | atStart =>
    rw [found, List.isPrefixOf_iff_prefix]
    constructor
    · rintro ⟨w, rfl⟩
      exact ⟨[], w, rfl, fun _ => rfl, nofun⟩
    · rintro ⟨u, w, rfl, hu, _⟩
      rw [hu rfl, List.nil_append]
      exact List.prefix_append t w
  | atEnd =>
    rw [found, List.isSuffixOf_iff_suffix]
    constructor
    · rintro ⟨u, rfl⟩
      exact ⟨u, [], (List.append_nil _).symm, nofun, fun _ => rfl⟩
    · rintro ⟨u, w, rfl, _, hw⟩
      rw [hw rfl, List.append_nil]
      exact List.suffix_append u t
  | anywhere =>
    rw [found, occursIn_iff]
    constructor
    · rintro ⟨u, w, rfl⟩
      exact ⟨u, w, rfl, nofun, nofun⟩
    · rintro ⟨u, w, rfl, _, _⟩
      exact ⟨u, w, rfl⟩

theorem normal_eq : p.normal s = s.toList.map (Text.letter p.ignoreCase) := by
  unfold normal Text.letter
  split <;> simp

theorem accepts_iff : p.accepts s = true ↔ p.Splits s := by
  rw [accepts, found_iff, normal_eq, normal_eq]
  constructor
  · rintro ⟨u, w, hs, hu, hw⟩
    obtain ⟨uv, w', hsplit, huv, rfl⟩ := List.map_eq_append_iff.1 hs
    obtain ⟨u', v, rfl, rfl, hv⟩ := List.map_eq_append_iff.1 huv
    exact ⟨u', v, w', hsplit, Text.forall₂_sameLetter_iff.2 hv.symm,
      fun h => List.map_eq_nil_iff.1 (hu h), fun h => List.map_eq_nil_iff.1 (hw h)⟩
  · rintro ⟨u, v, w, hsplit, hv, hu, hw⟩
    refine ⟨u.map (Text.letter p.ignoreCase), w.map (Text.letter p.ignoreCase), ?_,
      fun h => List.map_eq_nil_iff.2 (hu h), fun h => List.map_eq_nil_iff.2 (hw h)⟩
    rw [hsplit, Text.forall₂_sameLetter_iff.1 hv, List.map_append, List.map_append]

/-! The expression that a pattern is written as. -/

open Regex (Part parts?)

theorem isSpecial_of_mem_operators : ∀ c ∈ Regex.operators, isSpecial c = true :=
  List.all_eq_true.1 (by decide)

theorem escaped?_of_isSpecial {c : Char} (h : isSpecial c = true) :
    Regex.Atom.escaped? c = some (.char c false) := by
  rw [isSpecial, decide_eq_true_eq] at h
  fin_cases h <;> rfl

theorem ofSign?_of_not_isSpecial {c : Char} (h : ¬ isSpecial c = true) :
    Part.ofSign? c = some (.char c) := by
  have hstart : c ≠ '^' := by
    rintro rfl
    exact h (by decide)
  have hend : c ≠ '$' := by
    rintro rfl
    exact h (by decide)
  rw [Part.ofSign?, if_neg (mt (isSpecial_of_mem_operators c) h), if_neg hstart, if_neg hend]

/-- How a character is written. -/
def escapedChar (c : Char) : List Char := if isSpecial c then ['\\', c] else [c]

theorem toList_escaped (t : String) : (escaped t).toList = t.toList.flatMap escapedChar :=
  String.toList_ofList

theorem parts?_escapedChar (c : Char) (cs : List Char) :
    parts? (escapedChar c ++ cs) = (parts? cs).map (.char c :: ·) := by
  by_cases h : isSpecial c = true
  · rw [escapedChar, if_pos h]
    simp only [List.cons_append, List.nil_append, parts?, escaped?_of_isSpecial h]
  · have hne : c ≠ '\\' := by
      rintro rfl
      exact h (by decide)
    rw [escapedChar, if_neg h, List.singleton_append, Regex.parts?_cons_of_ne hne,
      ofSign?_of_not_isSpecial h, Option.bind_some]

/-- A text that is written with backslashes is read as its characters. -/
theorem parts?_flatMap_escapedChar (t cs : List Char) :
    parts? (t.flatMap escapedChar ++ cs) = (parts? cs).map (t.map .char ++ ·) := by
  induction t with
  | nil => simp
  | cons c t ih =>
    rw [List.flatMap_cons, List.append_assoc, parts?_escapedChar, ih, Option.map_map]
    rfl

/-- The parts of a pattern: its characters, and the ends of the text that its place fixes. -/
def parts (p : Pattern) : List Part :=
  (if p.place.opens then [.textStart] else []) ++
    (p.text.toList.map .char ++ if p.place.closes then [.textEnd] else [])

theorem toList_written (p : Pattern) : p.written.toList =
    (if p.place.opens then ['^'] else []) ++
      (p.text.toList.flatMap escapedChar ++ if p.place.closes then ['$'] else []) := by
  obtain ⟨place, t, ignoreCase⟩ := p
  cases place <;> simp [written, toList_escaped, Place.opens, Place.closes]

theorem parts?_written (p : Pattern) : parts? p.written.toList = some p.parts := by
  have hends : parts? (if p.place.closes then ['$'] else []) =
      some (if p.place.closes then [.textEnd] else []) := by
    split <;> rfl
  rw [toList_written, parts]
  split
  · rw [List.singleton_append, Regex.parts?_cons_of_ne (by decide), parts?_flatMap_escapedChar,
      hends]
    rfl
  · rw [List.nil_append, parts?_flatMap_escapedChar, hends]
    rfl

theorem fits_ends {atStart : Bool} (closes : Bool) {w : List Char} :
    Regex.fits p.ignoreCase atStart (if closes then [.textEnd] else []) w = true ↔
      (closes = true → w = []) := by
  cases closes with
  | false => exact ⟨fun _ => nofun, fun _ => rfl⟩
  | true => exact Regex.fits_textEnd.trans ⟨fun h _ => h, fun h => h rfl⟩

theorem fits_parts {atStart : Bool} {rest : List Char} :
    Regex.fits p.ignoreCase atStart p.parts rest = true ↔ (p.place.opens = true → atStart = true) ∧
      ∃ v w, rest = v ++ w ∧ List.Forall₂ (SameLetter p.ignoreCase) p.text.toList v ∧
        (p.place.closes = true → w = []) := by
  rw [parts]
  cases p.place.opens with
  | false =>
    rw [if_neg Bool.false_ne_true, List.nil_append, Regex.fits_chars]
    simp only [fits_ends]
    exact ⟨fun h => ⟨nofun, h⟩, fun h => h.2⟩
  | true =>
    rw [if_pos rfl, List.singleton_append, Regex.fits_textStart, Regex.fits_chars]
    simp only [fits_ends]
    exact and_congr_left fun _ => ⟨fun h _ => h, fun h => h trivial⟩

/-- The written expression is found in the strings that the pattern accepts. -/
theorem isMatch?_written (p : Pattern) (s : String) :
    Regex.isMatch? p.ignoreCase p.written s = some (p.accepts s) := by
  rw [Regex.isMatch?, parts?_written, Option.map_some, Option.some.injEq, Bool.eq_iff_iff,
    accepts_iff, Regex.search_iff]
  simp only [fits_parts, Bool.true_and, List.isEmpty_iff]
  constructor
  · rintro ⟨u, rest, hs, hu, v, w, rfl, hv, hw⟩
    exact ⟨u, v, w, by rw [hs, List.append_assoc], hv, hu, hw⟩
  · rintro ⟨u, v, w, hs, hv, hu, hw⟩
    exact ⟨u, v ++ w, by rw [hs, List.append_assoc], hu, v, w, rfl, hv, hw⟩

theorem isExpression_written (p : Pattern) : Regex.isExpression p.written.toList = true := by
  rw [Regex.isExpression, Regex.repeatStep_of_parts? ⟨rfl, rfl, rfl, rfl⟩ p.parts?_written]
  rfl

end Pattern

namespace Leaf

variable {l : Leaf} {place : Place} {t : String}

/-- The leaf asks for a text: an operation on strings does, and equality without regard to case. -/
inductive Seeks (l : Leaf) : Place → Prop
  | text {test : TextTest} (h : l.operation = .matchText test) : Seeks l (Predicate.placeOf test)
  | whole (h : l.operation = .compare .equal) (hcase : l.ignoreCase = true) : Seeks l .whole

/-- The string has the text in it, letter by letter: at its beginning if the text has to start
there, at its end if it has to end there. -/
def Finds (l : Leaf) (t s : String) : Prop :=
  ∃ u v w, s.toList = u ++ v ++ w ∧ List.Forall₂ (SameLetter l.ignoreCase) t.toList v ∧
    (l.operation = .matchText .startsWith ∨ l.operation = .compare .equal → u = []) ∧
    (l.operation = .matchText .endsWith ∨ l.operation = .compare .equal → w = [])

theorem Seeks.opens_iff (h : l.Seeks place) : place.opens = true ↔
    l.operation = .matchText .startsWith ∨ l.operation = .compare .equal := by
  cases h with
  | @text test h => cases test <;> simp [h, Predicate.placeOf, Place.opens]
  | whole h => simp [h, Place.opens]

theorem Seeks.closes_iff (h : l.Seeks place) : place.closes = true ↔
    l.operation = .matchText .endsWith ∨ l.operation = .compare .equal := by
  cases h with
  | @text test h => cases test <;> simp [h, Predicate.placeOf, Place.closes]
  | whole h => simp [h, Place.closes]

theorem Seeks.accepts_iff (h : l.Seeks place) {s : String} :
    (Pattern.mk place t l.ignoreCase).accepts s = true ↔ l.Finds t s := by
  rw [Pattern.accepts_iff, Pattern.Splits, Finds, h.opens_iff, h.closes_iff]

theorem Seeks.ignoringCase (h : l.Seeks place) : { l with ignoreCase := true }.Seeks place := by
  cases h with
  | text h => exact .text h
  | whole h => exact .whole h rfl

theorem Seeks.ofLeaf (h : l.Seeks place) (ht : l.operand = .string t) :
    Predicate.ofLeaf l = .ok (.pattern l.field ⟨place, t, l.ignoreCase⟩) := by
  cases h with
  | text h => simp only [Predicate.ofLeaf, h, Predicate.ofText, ht]
  | whole h hcase =>
    have hinsensitive : l.isCaseInsensitive = true := by
      rw [isCaseInsensitive, hcase, ht]
      rfl
    simp only [Predicate.ofLeaf, h, hinsensitive, and_self, if_true, Predicate.ofText, ht]

theorem accepts_pattern_iff {p : Pattern} {bins : Members} {bin : String} :
    (Predicate.pattern bin p).accepts bins = true ↔
      ∃ s, bins.get? bin = some (.string s) ∧ p.accepts s = true := by
  rw [Predicate.accepts, Option.any_eq_true]
  simp only [Option.bind_eq_some_iff, Value.string?_eq_some_iff, exists_eq_right]

theorem Seeks.holds_iff (h : l.Seeks place) (ht : l.operand = .string t) (bins : Members) :
    (Qualifier.leaf l).Holds bins ↔
      ∃ s, bins.get? l.field = some (.string s) ∧ l.Finds t s := by
  have hpredicate : Predicate.ofQualifier (.leaf l) =
      .ok (.pattern l.field ⟨place, t, l.ignoreCase⟩) := h.ofLeaf ht
  rw [Qualifier.holds_iff hpredicate, accepts_pattern_iff]
  simp only [h.accepts_iff]

/-- Equality with regard to case asks for the text itself. -/
theorem holds_iff_of_equal (hequal : l.operation = .compare .equal) (hcase : l.ignoreCase = false)
    (ht : l.operand = .string t) (bins : Members) :
    (Qualifier.leaf l).Holds bins ↔ bins.get? l.field = some (.string t) := by
  have hsensitive : l.isCaseInsensitive = false := by rw [isCaseInsensitive, hcase, Bool.false_and]
  have hpredicate : Predicate.ofQualifier (.leaf l) =
      .ok (.compare l.field (.equal (.string t))) := by
    simp only [Predicate.ofQualifier, Predicate.ofLeaf, hequal, hsensitive, Bool.false_eq_true,
      and_false, if_false, Predicate.valueTest, ht, Except.map]
  rw [Qualifier.holds_iff hpredicate, Predicate.accepts, Option.any_eq_true]
  simp only [IndexFilter.accepts_string_iff, Value.string?_eq_some_iff, exists_eq_right]

/-- What is found with regard to case is found without it. -/
theorem Seeks.holds_ignoringCase (h : l.Seeks place) (ht : l.operand = .string t) {bins : Members}
    (hexact : (Qualifier.leaf { l with ignoreCase := false }).Holds bins) :
    (Qualifier.leaf { l with ignoreCase := true }).Holds bins := by
  refine (h.ignoringCase.holds_iff ht bins).2 ?_
  cases h with
  | @text test h =>
    have hseeks : { l with ignoreCase := false }.Seeks (Predicate.placeOf test) := .text h
    obtain ⟨s, hs, u, v, w, hsplit, hv, hends⟩ := (hseeks.holds_iff ht bins).1 hexact
    exact ⟨s, hs, u, v, w, hsplit, hv.imp fun _ _ => SameLetter.ignoringCase, hends⟩
  | whole h =>
    have hs : bins.get? l.field = some (.string t) :=
      (holds_iff_of_equal (l := { l with ignoreCase := false }) h rfl ht bins).1 hexact
    exact ⟨t, hs, [], t.toList, [], (List.append_nil _).symm, List.forall₂_same.2 fun _ _ => rfl,
      fun _ => rfl, fun _ => rfl⟩

/-- A text stands for itself. The pattern of a leaf that asks for a text is an expression in its
written form, which is found in a string just when the pattern accepts it. A record satisfies the
leaf when its bin holds a string with the text in it, letter by letter, and at the end of the string
that the operation names; nothing but a string will do. What satisfies the leaf when case counts
satisfies it when case does not. -/
theorem seeks_literally (l : Leaf) (place : Place) (t : String) (h : l.Seeks place)
    (ht : l.operand = .string t) :
    (∃ p, Predicate.ofLeaf l = .ok (.pattern l.field p) ∧
      Regex.isExpression p.written.toList = true ∧
      ∀ s, Regex.isMatch? l.ignoreCase p.written s = some (p.accepts s)) ∧
    ∀ bins : Members,
      ((Qualifier.leaf l).Holds bins ↔
        ∃ s, bins.get? l.field = some (.string s) ∧ l.Finds t s) ∧
      ((Qualifier.leaf { l with ignoreCase := false }).Holds bins →
        (Qualifier.leaf { l with ignoreCase := true }).Holds bins) := by
  have hpattern : ∀ s, Regex.isMatch? l.ignoreCase (Pattern.mk place t l.ignoreCase).written s =
      some ((Pattern.mk place t l.ignoreCase).accepts s) :=
    Pattern.isMatch?_written ⟨place, t, l.ignoreCase⟩
  exact ⟨⟨_, h.ofLeaf ht, Pattern.isExpression_written _, hpattern⟩,
    fun bins => ⟨h.holds_iff ht bins, h.holds_ignoringCase ht⟩⟩

/-! A text with a sign in it and a new line at its end, in a name that is written otherwise. -/

/-- The name ends with the line `a.b`, in either case. -/
def endsWithLine : Leaf :=
  { field := "name", operation := .matchText .endsWith, ignoreCase := true,
    operand := .string "a.b\n" }

/-- The dot is found where there is a dot, and the new line belongs to the text. -/
theorem seeks_literally_line :
    endsWithLine.Seeks .atEnd ∧ endsWithLine.operand = .string "a.b\n" ∧
    (Qualifier.leaf endsWithLine).Holds [("name", .string "xA.B\n")] := by
  have hoperation : endsWithLine.operation = .matchText .endsWith := rfl
  have hseeks : endsWithLine.Seeks .atEnd := Seeks.text hoperation
  have hfinds : endsWithLine.Finds "a.b\n" "xA.B\n" :=
    ⟨['x'], ['A', '.', 'B', '\n'], [], by decide, by decide +kernel, nofun, fun _ => rfl⟩
  obtain ⟨_, hbins⟩ := seeks_literally endsWithLine .atEnd "a.b\n" hseeks rfl
  exact ⟨hseeks, rfl, (hbins _).1.2 ⟨_, rfl, hfinds⟩⟩

example : Regex.isMatch? true "a\\.b\n$" "xA.B\n" = some true ∧
    Regex.isMatch? true "a\\.b\n$" "xA-B\n" = some false := by decide +kernel

end Leaf

end IndexPlanner

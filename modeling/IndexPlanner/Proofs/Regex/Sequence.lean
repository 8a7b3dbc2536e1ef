import IndexPlanner.Regex.Basic
import IndexPlanner.Text.CaseFold
import Mathlib.Data.List.Forall2

/-! Expressions that are a plain row: characters, some of them behind a backslash, and the ends of
the text. Such a row is found in a text when it fits at some place of it. Expressions with other
signs, those for kinds of characters, alternatives, repetitions, groups and classes, are not read
here. -/
namespace IndexPlanner

namespace Text

/-- The two characters are the same letter; if case counts, they are the same character. -/
def SameLetter (ignoreCase : Bool) (c d : Char) : Prop :=
  if ignoreCase then foldCase c = foldCase d else c = d

instance (ignoreCase : Bool) (c d : Char) : Decidable (SameLetter ignoreCase c d) :=
  inferInstanceAs (Decidable (if ignoreCase then _ else _))

theorem repeatStep_of_inl {σ β : Type} {step : σ → List Char → Option (σ × List Char ⊕ β)}
    {s s' : σ} {cs rest : List Char} (h : step s cs = some (.inl (s', rest)))
    (hshorter : rest.length < cs.length) : repeatStep step s cs = repeatStep step s' rest := by
  rw [repeatStep, h]
  exact if_pos hshorter

end Text

namespace Regex

open Text (SameLetter)

/-- A part of a plain row. -/
inductive Part where
  | char (c : Char)
  | textStart
  | textEnd
  deriving DecidableEq, Repr

/-- The signs that make an expression something else than a plain row. -/
def operators : List Char := ['\\', '.', '+', '*', '?', '(', ')', '|', '[', '\x7b']

/-- What a sign stands for when no backslash is before it, if that is a part of a plain row. -/
def Part.ofSign? (c : Char) : Option Part :=
  if c ∈ operators then none
  else if c = '^' then some .textStart
  else if c = '$' then some .textEnd
  else some (.char c)

/-- The parts of a plain row, as they are written. -/
def parts? : List Char → Option (List Part)
  | [] => some []
  | ['\\'] => none
  | '\\' :: c :: cs =>
    match Atom.escaped? c with
    | some (.char d _) => (parts? cs).map (.char d :: ·)
    | _ => none
  | c :: cs => (Part.ofSign? c).bind fun part => (parts? cs).map (part :: ·)

/-- Whether the parts fit the rest of a text, from its first character on. -/
def fits (ignoreCase atStart : Bool) : List Part → List Char → Bool
  | [], _ => true
  | .char _ :: _, [] => false
  | .char c :: parts, d :: cs => decide (SameLetter ignoreCase c d) && fits ignoreCase false parts cs
  | .textStart :: parts, cs => atStart && fits ignoreCase atStart parts cs
  | .textEnd :: parts, cs => cs.isEmpty && fits ignoreCase atStart parts cs

/-- Whether the parts fit at some place of the rest of a text. -/
def search (ignoreCase : Bool) (parts : List Part) (atStart : Bool) : List Char → Bool
  | [] => fits ignoreCase atStart parts []
  | c :: cs => fits ignoreCase atStart parts (c :: cs) || search ignoreCase parts false cs

/-- Whether the expression is found in the text. -/
def isMatch? (ignoreCase : Bool) (source text : String) : Option Bool :=
  (parts? source.toList).map fun parts => search ignoreCase parts true text.toList

variable {ignoreCase atStart : Bool} {parts : List Part} {cs : List Char}

theorem parts?_cons_of_ne {c : Char} (h : c ≠ '\\') (cs : List Char) :
    parts? (c :: cs) = (Part.ofSign? c).bind fun part => (parts? cs).map (part :: ·) := by
  rw [parts?]
  · exact fun hc _ => h hc
  · exact fun _ _ hc _ => h hc

/-! Searching. -/

theorem fits_textStart : fits ignoreCase atStart (.textStart :: parts) cs = true ↔
    atStart = true ∧ fits ignoreCase atStart parts cs = true := by
  rw [fits, Bool.and_eq_true]

theorem fits_textEnd : fits ignoreCase atStart [.textEnd] cs = true ↔ cs = [] := by
  rw [fits, fits, Bool.and_true, List.isEmpty_iff]

/-- Characters fit character by character. -/
theorem fits_chars {t : List Char} : fits ignoreCase atStart (t.map .char ++ parts) cs = true ↔
    ∃ v w, cs = v ++ w ∧ List.Forall₂ (SameLetter ignoreCase) t v ∧
      fits ignoreCase (atStart && t.isEmpty) parts w = true := by
  induction t generalizing atStart cs with
  | nil => simp
  | cons c t ih =>
    cases cs with
    | nil => simp [fits]
    | cons d cs =>
      simp only [List.map_cons, List.cons_append, fits, Bool.and_eq_true, decide_eq_true_eq, ih,
        List.forall₂_cons_left_iff, List.isEmpty_cons, Bool.and_false, Bool.false_and]
      constructor
      · rintro ⟨hcd, v, w, rfl, hv, hw⟩
        exact ⟨d :: v, w, rfl, ⟨d, v, hcd, hv, rfl⟩, hw⟩
      · rintro ⟨_, w, hcs, ⟨d', v, hcd, hv, rfl⟩, hw⟩
        cases hcs
        exact ⟨hcd, v, w, rfl, hv, hw⟩

/-- What is found is found behind some beginning of the text. -/
theorem search_iff : search ignoreCase parts atStart cs = true ↔
    ∃ u rest, cs = u ++ rest ∧ fits ignoreCase (atStart && u.isEmpty) parts rest = true := by
  induction cs generalizing atStart with
  | nil => simp [search]
  | cons c cs ih =>
    rw [search, Bool.or_eq_true, ih]
    constructor
    · rintro (hfits | ⟨u, rest, rfl, hfits⟩)
      · exact ⟨[], c :: cs, rfl, by simpa using hfits⟩
      · exact ⟨c :: u, rest, rfl, by simpa using hfits⟩
    · rintro ⟨u, rest, hcs, hfits⟩
      cases u with
      | nil =>
        cases hcs
        exact .inl (by simpa using hfits)
      | cons c' u =>
        cases hcs
        exact .inr ⟨u, rest, rfl, by simpa using hfits⟩

/-! Reading. A row that can be read is an expression. -/

/-- Outside of groups, behind a row without bars and parts within parts. -/
structure Progress.IsFlat (p : Progress) : Prop where
  mode : p.mode = {}
  outer : p.outer = []
  alternatives : p.body.alternatives = {}
  depth : p.body.row.depth = 0

theorem Progress.IsFlat.add {p : Progress} (h : p.IsFlat) : (p.add 0).IsFlat := by
  obtain ⟨hmode, houter, halternatives, hdepth⟩ := h
  exact ⟨hmode, houter, halternatives, by simp [Progress.add, Body.add, Row.add, hdepth]⟩

theorem Progress.IsFlat.height_le {p : Progress} (h : p.IsFlat) : p.body.height ≤ depthLimit := by
  simp only [Body.height, h.alternatives, Row.add, Row.height, h.depth, depthLimit]
  split <;> split <;> omega

theorem Progress.IsFlat.skip {p : Progress} (h : p.IsFlat) (cs : List Char) :
    p.mode.skip cs = cs := by
  rw [Mode.skip, h.mode]
  rfl

theorem Progress.IsFlat.addAtom_char {p : Progress} (h : p.IsFlat) (c : Char) (asByte : Bool) :
    addAtom p (.char c asByte) = some (p.add 0) := by
  rw [addAtom, h.mode]
  rfl

theorem readEscape_of_escaped? {m : Mode} {c : Char} {a : Atom} (h : Atom.escaped? c = some a)
    (cs : List Char) : Atom.readEscape m (c :: cs) = some (a, cs) := by
  have hnone : ∀ d ∈ ['x', 'u', 'U', 'p', 'P'], (Atom.escaped? d).isNone = true :=
    List.all_eq_true.1 (by decide)
  have hne : c ∉ ['x', 'u', 'U', 'p', 'P'] := by
    intro hc
    cases (Option.isNone_iff_eq_none.1 (hnone c hc)).symm.trans h
  simp only [List.mem_cons, List.not_mem_nil, or_false, not_or] at hne
  obtain ⟨hx, hu, hU, hp, hP⟩ := hne
  rw [Atom.readEscape, h, Option.map_some] <;> assumption

theorem step_escaped {p : Progress} (hp : p.IsFlat) {c d : Char} {asByte : Bool}
    (h : Atom.escaped? c = some (.char d asByte)) :
    step p ('\\' :: c :: cs) = some (.inl (p.add 0, cs)) := by
  rw [step, hp.skip]
  simp only [readEscape_of_escaped? h, Option.bind_eq_bind, Option.bind_some, hp.addAtom_char]
  rfl

theorem not_mem_operators {c : Char} {part : Part} (h : Part.ofSign? c = some part) :
    c ∉ operators := by
  intro hc
  rw [Part.ofSign?, if_pos hc] at h
  cases h

theorem step_sign {p : Progress} (hp : p.IsFlat) {c : Char} {part : Part}
    (h : Part.ofSign? c = some part) : step p (c :: cs) = some (.inl (p.add 0, cs)) := by
  have hplain := not_mem_operators h
  rw [step, hp.skip]
  -- the signs with a rule of their own are operators
  split <;> rename_i heq <;> cases heq
  iterate 5 exact absurd (by decide) hplain
  simp only [operators, List.mem_cons, List.not_mem_nil, or_false, not_or] at hplain
  rw [if_neg (by simp [hplain])]
  split
  · simp_all
  · simp_all
  · rfl
  · rfl
  · simp [hp.addAtom_char]

/-- A plain row is an expression. -/
theorem repeatStep_of_parts? {p : Progress} (hp : p.IsFlat) (h : parts? cs = some parts) :
    Text.repeatStep step p cs = some true := by
  -- each part is one step, behind which the reader is still outside of groups
  fun_induction parts? cs generalizing p parts with
  | case1 =>
    rw [Text.repeatStep, step, hp.skip]
    simp [hp.outer, hp.height_le]
  | case2 => cases h
  | case3 c cs d asByte hescaped ih =>
    obtain ⟨rest, hrest, rfl⟩ := Option.map_eq_some_iff.1 h
    have hshorter : cs.length < ('\\' :: c :: cs).length :=
      Nat.lt_trans (Nat.lt_succ_self _) (Nat.lt_succ_self _)
    rw [Text.repeatStep_of_inl (step_escaped hp hescaped) hshorter, ih hp.add hrest]
  | case4 => cases h
  | case5 c cs _ _ ih =>
    obtain ⟨part, hpart, h⟩ := Option.bind_eq_some_iff.1 h
    obtain ⟨rest, hrest, rfl⟩ := Option.map_eq_some_iff.1 h
    rw [Text.repeatStep_of_inl (step_sign hp hpart) (Nat.lt_succ_self _), ih hp.add hrest]

end Regex

end IndexPlanner

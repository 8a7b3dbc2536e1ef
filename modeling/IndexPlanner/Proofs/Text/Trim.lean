import IndexPlanner.Proofs.Text.Pieces
import Mathlib.Data.List.TakeWhile

/-! Blanks at the ends of a text. Trimming takes them away and nothing else, so they change neither
which of the pieces are blank nor what is left of a piece when it is trimmed. -/
namespace IndexPlanner.Text

variable {separator : Char} {cs front back : List Char}

theorem trimChars_eq_nil_iff : trimChars cs = [] ↔ ∀ c ∈ cs, isBlank c = true := by
  rw [trimChars, List.reverse_eq_nil_iff, List.dropWhile_eq_nil_iff]
  constructor
  · intro h
    cases hrest : cs.dropWhile isBlank with
    | nil => exact List.dropWhile_eq_nil_iff.1 hrest
    | cons c rest =>
      -- What dropping leaves does not start with a blank, yet all of it is blank.
      have hc := not_isBlank_head_dropWhile cs c (by rw [hrest]; rfl)
      rw [h c (by simp [hrest])] at hc
      cases hc
  · intro h c hc
    rw [List.dropWhile_eq_nil_iff.2 h] at hc
    simp at hc

/-- Blanks before a text are trimmed away. -/
theorem trimChars_append_left (h : ∀ c ∈ front, isBlank c = true) (cs : List Char) :
    trimChars (front ++ cs) = trimChars cs := by
  rw [trimChars, List.dropWhile_append_of_pos h, trimChars]

/-- Blanks after a text are trimmed away. -/
theorem trimChars_append_right (h : ∀ c ∈ back, isBlank c = true) (cs : List Char) :
    trimChars (cs ++ back) = trimChars cs := by
  rw [trimChars, List.dropWhile_append, trimChars]
  split
  · next hrest => rw [List.dropWhile_eq_nil_iff.2 h, List.isEmpty_iff.1 hrest]
  · rw [List.reverse_append, List.dropWhile_append_of_pos fun c hc => h c (List.mem_reverse.1 hc)]

/-- A text is what trimming leaves of it, between blanks. -/
theorem exists_blank_ends (cs : List Char) : ∃ front back, cs = front ++ trimChars cs ++ back ∧
    (∀ c ∈ front, isBlank c = true) ∧ ∀ c ∈ back, isBlank c = true := by
  have hends : ∀ l : List Char, l.takeWhile isBlank ++ l.dropWhile isBlank = l :=
    fun l => List.takeWhile_append_dropWhile
  have hback := congrArg List.reverse (hends (cs.dropWhile isBlank).reverse)
  rw [List.reverse_append, List.reverse_reverse] at hback
  refine ⟨cs.takeWhile isBlank, ((cs.dropWhile isBlank).reverse.takeWhile isBlank).reverse, ?_, ?_,
    ?_⟩
  · rw [trimChars, List.append_assoc, hback, hends]
  · exact fun c hc => List.mem_takeWhile_imp hc
  · exact fun c hc => List.mem_takeWhile_imp (List.mem_reverse.1 hc)

/-! Pieces. -/

theorem pieces_eq_splitOn (separator : Char) (cs : List Char) :
    pieces separator cs = cs.splitOn separator := by
  induction cs with
  | nil => rfl
  | cons c cs ih =>
    rw [List.splitOn_cons_eq_if_modifyHead, ← ih]
    by_cases hc : c = separator
    · rw [pieces, if_pos hc, if_pos (beq_iff_eq.2 hc)]
    · obtain ⟨p, ps, hcs, hcons⟩ := pieces_cons_of_ne cs hc
      rw [hcons, hcs, if_neg (by simpa using hc)]
      rfl

/-- What is put before a text goes into its first piece. -/
theorem exists_pieces_append_left (h : separator ∉ front) (cs : List Char) :
    ∃ p ps, pieces separator cs = p :: ps ∧
      pieces separator (front ++ cs) = (front ++ p) :: ps := by
  induction front with
  | nil =>
    obtain ⟨p, ps, hcs⟩ := List.exists_cons_of_ne_nil (pieces_ne_nil separator cs)
    exact ⟨p, ps, hcs, hcs⟩
  | cons c front ih =>
    rw [List.mem_cons, not_or] at h
    obtain ⟨p, ps, hcs, hfront⟩ := ih h.2
    obtain ⟨q, qs, hq, hcons⟩ := pieces_cons_of_ne (front ++ cs) (Ne.symm h.1)
    rw [hfront, List.cons.injEq] at hq
    obtain ⟨rfl, rfl⟩ := hq
    exact ⟨p, ps, hcs, hcons⟩

/-- What is put after a text goes into its last piece. -/
theorem exists_pieces_append_right (h : separator ∉ back) (cs : List Char) :
    ∃ ps p, pieces separator cs = ps ++ [p] ∧
      pieces separator (cs ++ back) = ps ++ [p ++ back] := by
  induction cs with
  | nil => exact ⟨[], [], rfl, pieces_of_not_mem h⟩
  | cons c cs ih =>
    obtain ⟨ps, p, hcs, hback⟩ := ih
    by_cases hc : c = separator
    · refine ⟨[] :: ps, p, ?_, ?_⟩
      · rw [pieces, if_pos hc, hcs, List.cons_append]
      · rw [List.cons_append, pieces, if_pos hc, hback, List.cons_append]
    · obtain ⟨q, qs, hq, hcons⟩ := pieces_cons_of_ne cs hc
      obtain ⟨r, rs, hr, hconsBack⟩ := pieces_cons_of_ne (cs ++ back) hc
      rw [hcs] at hq
      rw [hback] at hr
      -- The character goes into the first piece, which may be the last one too.
      cases ps with
      | nil =>
        cases hq
        cases hr
        exact ⟨[], c :: p, hcons, hconsBack⟩
      | cons d ps =>
        obtain ⟨rfl, rfl⟩ := List.cons.inj hq
        obtain ⟨rfl, rfl⟩ := List.cons.inj hr
        exact ⟨(c :: d) :: ps, p, hcons, hconsBack⟩

/-- Trimming a text does not change what trimming leaves of its pieces. -/
theorem pieces_trimChars_map (h : isBlank separator = false) (cs : List Char) :
    (pieces separator (trimChars cs)).map trimChars = (pieces separator cs).map trimChars := by
  have hsep : ∀ l : List Char, (∀ c ∈ l, isBlank c = true) → separator ∉ l := by
    intro l hl hmem
    rw [hl separator hmem] at h
    cases h
  obtain ⟨front, back, hcs, hfront, hback⟩ := exists_blank_ends cs
  obtain ⟨p, ps, hp, hleft⟩ := exists_pieces_append_left (hsep front hfront) (trimChars cs)
  obtain ⟨qs, q, hq, hright⟩ := exists_pieces_append_right (hsep back hback) (front ++ trimChars cs)
  calc (pieces separator (trimChars cs)).map trimChars
      = (pieces separator (front ++ trimChars cs)).map trimChars := by
        rw [hp, hleft, List.map_cons, List.map_cons, trimChars_append_left hfront]
    _ = (pieces separator (front ++ trimChars cs ++ back)).map trimChars := by
        rw [hright, hq, List.map_append, List.map_append, List.map_singleton, List.map_singleton,
          trimChars_append_right hback]
    _ = (pieces separator cs).map trimChars := by rw [← hcs]

/-- The pieces between the separators, but for the blank ones. -/
def nonblank (separator : Char) (cs : List Char) : List (List Char) :=
  (cs.splitOn separator).filter fun p => !p.all isBlank

end IndexPlanner.Text

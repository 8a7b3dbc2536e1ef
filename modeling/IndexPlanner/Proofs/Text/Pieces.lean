import IndexPlanner.Text.Blank
import IndexPlanner.Text.Pieces

/-! Cutting a text at a separator undoes joining, as long as the separator is nowhere else; and
trimming leaves a text alone whose two ends are not blank. -/
namespace IndexPlanner.Text

variable {separator c : Char} {cs : List Char}

/-! Trimming. -/

/-- Neither end of the text is blank. -/
structure Trimmed (cs : List Char) : Prop where
  first : ∀ c ∈ cs.head?, isBlank c = false
  last : ∀ c ∈ cs.getLast?, isBlank c = false

-- The instances are named since all characters can be tried as well, which takes too long.
instance : DecidablePred Trimmed := fun cs =>
  @decidable_of_iff _ ((∀ c ∈ cs.head?, isBlank c = false) ∧ ∀ c ∈ cs.getLast?, isBlank c = false)
    ⟨fun ⟨h₁, h₂⟩ => ⟨h₁, h₂⟩, fun ⟨h₁, h₂⟩ => ⟨h₁, h₂⟩⟩
    (@instDecidableAnd _ _ (Option.decidableForallMem _) (Option.decidableForallMem _))

theorem dropWhile_isBlank_eq_self (h : ∀ c ∈ cs.head?, isBlank c = false) :
    cs.dropWhile isBlank = cs := by
  cases cs with
  | nil => rfl
  | cons c cs =>
    have hc : isBlank c = false := h c rfl
    rw [List.dropWhile_cons_of_neg (by simp [hc])]

theorem not_isBlank_head_dropWhile (cs : List Char) :
    ∀ c ∈ (cs.dropWhile isBlank).head?, isBlank c = false := by
  intro c hc
  have h := List.head?_dropWhile_not isBlank cs
  rw [Option.mem_def] at hc
  simpa only [hc] using h

theorem Trimmed.reverse (h : Trimmed cs) : Trimmed cs.reverse where
  first := by
    rw [List.head?_reverse]
    exact h.last
  last := by
    rw [List.getLast?_reverse]
    exact h.first

/-- The ends of a text are those of its first and its last part. -/
theorem Trimmed.append {p q : List Char} (hp : Trimmed p) (hpne : p ≠ []) (between : List Char)
    (hq : Trimmed q) (hqne : q ≠ []) : Trimmed (p ++ between ++ q) where
  first := by
    obtain ⟨c, p, rfl⟩ := List.exists_cons_of_ne_nil hpne
    exact hp.first
  last := by
    have hc := List.getLast?_eq_some_getLast hqne
    rw [List.getLast?_append, hc, Option.some_or, ← hc]
    exact hq.last

theorem trimChars_eq_self (h : Trimmed cs) : trimChars cs = cs := by
  rw [trimChars, dropWhile_isBlank_eq_self h.first, dropWhile_isBlank_eq_self h.reverse.first,
    List.reverse_reverse]

theorem trimmed_trimChars (cs : List Char) : Trimmed (trimChars cs) := by
  have hlast : ∀ c ∈ (trimChars cs).getLast?, isBlank c = false := by
    rw [trimChars, List.getLast?_reverse]
    exact not_isBlank_head_dropWhile _
  -- What is left of the reversed text is an end of it, so its last character stays.
  have hfirst : ∀ c ∈ (trimChars cs).head?, isBlank c = false := by
    rw [trimChars, List.head?_reverse]
    intro c hc
    obtain ⟨front, hfront⟩ := List.dropWhile_suffix (l := (cs.dropWhile isBlank).reverse) isBlank
    have hwhole : (cs.dropWhile isBlank).reverse.getLast? = some c := by
      rw [← hfront, List.getLast?_append, Option.mem_def.1 hc, Option.some_or]
    rw [List.getLast?_reverse] at hwhole
    exact not_isBlank_head_dropWhile cs c hwhole
  exact ⟨hfirst, hlast⟩

theorem mem_of_mem_trimChars (h : c ∈ trimChars cs) : c ∈ cs := by
  rw [trimChars, List.mem_reverse] at h
  have hrest := (List.dropWhile_sublist isBlank).mem h
  rw [List.mem_reverse] at hrest
  exact (List.dropWhile_sublist isBlank).mem hrest

/-! Cutting at each separator. -/

theorem pieces_cons_of_ne (cs : List Char) (h : c ≠ separator) :
    ∃ p ps, pieces separator cs = p :: ps ∧ pieces separator (c :: cs) = (c :: p) :: ps := by
  cases hp : pieces separator cs with
  | nil => exact absurd hp (pieces_ne_nil separator cs)
  | cons p ps =>
    refine ⟨p, ps, rfl, ?_⟩
    rw [pieces, if_neg h, hp]

theorem pieces_of_not_mem (h : separator ∉ cs) : pieces separator cs = [cs] := by
  induction cs with
  | nil => rfl
  | cons c cs ih =>
    rw [List.mem_cons, not_or] at h
    rw [pieces, if_neg (Ne.symm h.1), ih h.2]

theorem pieces_append {p rest : List Char} (h : separator ∉ p) :
    pieces separator (p ++ separator :: rest) = p :: pieces separator rest := by
  induction p with
  | nil => rw [List.nil_append, pieces, if_pos rfl]
  | cons c p ih =>
    rw [List.mem_cons, not_or] at h
    rw [List.cons_append, pieces, if_neg (Ne.symm h.1), ih h.2]

theorem of_mem_pieces {p : List Char} (h : p ∈ pieces separator cs) :
    separator ∉ p ∧ ∀ c ∈ p, c ∈ cs := by
  induction cs generalizing p with
  | nil =>
    rw [pieces, List.mem_singleton] at h
    subst h
    simp
  | cons c cs ih =>
    by_cases hc : c = separator
    · rw [pieces, if_pos hc, List.mem_cons] at h
      rcases h with rfl | h
      · simp
      · obtain ⟨hsep, hmem⟩ := ih h
        exact ⟨hsep, fun d hd => .tail _ (hmem d hd)⟩
    · obtain ⟨q, qs, hcs, hcons⟩ := pieces_cons_of_ne cs hc
      rw [hcons, List.mem_cons] at h
      rcases h with rfl | h
      · obtain ⟨hsep, hmem⟩ := ih (hcs ▸ List.mem_cons_self)
        refine ⟨by simp [Ne.symm hc, hsep], ?_⟩
        intro d hd
        rcases List.mem_cons.1 hd with rfl | hd
        · exact List.mem_cons_self
        · exact .tail _ (hmem d hd)
      · obtain ⟨hsep, hmem⟩ := ih (hcs ▸ List.mem_cons_of_mem _ h)
        exact ⟨hsep, fun d hd => .tail _ (hmem d hd)⟩

/-- The pieces of joined texts are the texts. -/
theorem pieces_joinWith {s : String} {ss : List String}
    (h : ∀ t ∈ s :: ss, separator ∉ t.toList) :
    pieces separator (joinWith (.singleton separator) (s :: ss)).toList =
      (s :: ss).map String.toList := by
  induction ss generalizing s with
  | nil => exact pieces_of_not_mem (h s List.mem_cons_self)
  | cons t ss ih =>
    have hs := h s List.mem_cons_self
    have hrest := ih fun u hu => h u (List.mem_cons_of_mem _ hu)
    have htext : (joinWith (.singleton separator) (s :: t :: ss)).toList =
        s.toList ++ separator :: (joinWith (.singleton separator) (t :: ss)).toList := by
      simp [joinWith]
    rw [htext, pieces_append hs, hrest]
    rfl

theorem mem_joinWith {between : String} {ss : List String}
    (h : c ∈ (joinWith between ss).toList) : c ∈ between.toList ∨ ∃ s ∈ ss, c ∈ s.toList := by
  induction ss with
  | nil => simp [joinWith] at h
  | cons s ss ih =>
    cases ss with
    | nil => exact .inr ⟨s, List.mem_cons_self, h⟩
    | cons t ss =>
      rw [joinWith, String.toList_append, String.toList_append, List.mem_append,
        List.mem_append] at h
      rcases h with (h | h) | h
      · exact .inr ⟨s, List.mem_cons_self, h⟩
      · exact .inl h
      · obtain h | ⟨u, hu, hc⟩ := ih h
        · exact .inl h
        · exact .inr ⟨u, List.mem_cons_of_mem s hu, hc⟩

theorem trimmed_joinWith {between : String} {ss : List String} (hne : ss ≠ [])
    (h : ∀ s ∈ ss, Trimmed s.toList ∧ s.toList ≠ []) :
    Trimmed (joinWith between ss).toList ∧ (joinWith between ss).toList ≠ [] := by
  induction ss with
  | nil => exact absurd rfl hne
  | cons s ss ih =>
    obtain ⟨htrim, hs⟩ := h s List.mem_cons_self
    cases ss with
    | nil => exact ⟨htrim, hs⟩
    | cons t ss =>
      obtain ⟨hrest, hrestne⟩ :=
        ih (List.cons_ne_nil t ss) fun u hu => h u (List.mem_cons_of_mem s hu)
      rw [joinWith, String.toList_append, String.toList_append]
      exact ⟨htrim.append hs _ hrest hrestne, List.append_ne_nil_of_right_ne_nil _ hrestne⟩

/-! Cutting at the first separator. -/

theorem cutAt_append {before : List Char} (after : List Char) (h : separator ∉ before) :
    cutAt separator (before ++ separator :: after) = some (before, after) := by
  induction before with
  | nil => rw [List.nil_append, cutAt, if_pos rfl]
  | cons c before ih =>
    rw [List.mem_cons, not_or] at h
    rw [List.cons_append, cutAt, if_neg (Ne.symm h.1), ih h.2]
    rfl

theorem eq_append_of_cutAt {before after : List Char}
    (h : cutAt separator cs = some (before, after)) : cs = before ++ separator :: after := by
  induction cs generalizing before with
  | nil => cases h
  | cons c cs ih =>
    rw [cutAt] at h
    split at h
    · next hc =>
      cases h
      rw [hc, List.nil_append]
    · obtain ⟨⟨front, back⟩, hcut, hp⟩ := Option.map_eq_some_iff.1 h
      cases hp
      rw [ih hcut, List.cons_append]

end IndexPlanner.Text

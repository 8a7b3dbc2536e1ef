import IndexPlanner.Proofs.Index.Entry
import IndexPlanner.Proofs.Text.Trim

/-! The fields of an entry, told from its text: which pieces are fields, which value the fields give
to a key, and which of several keys provides a value. -/
namespace IndexPlanner

open Text

theorem parts_eq_map_nonblank (separator : Char) (cs : List Char) :
    parts separator cs = (nonblank separator cs).map trimChars := by
  rw [parts, nonblank, List.filter_map, pieces_eq_splitOn]
  congr 1
  refine List.filter_congr fun p _ => congrArg not ?_
  rw [Bool.eq_iff_iff, List.isEmpty_iff, trimChars_eq_nil_iff, List.all_eq_true]

theorem parts_trimChars {separator : Char} (h : isBlank separator = false) (cs : List Char) :
    parts separator (trimChars cs) = (nonblank separator cs).map trimChars := by
  rw [← parts_eq_map_nonblank, parts, pieces_trimChars_map h, parts]

namespace InfoField

/-- The field that a piece holds: what is before its first equality sign, and what is after it. -/
def ofPiece (p : List Char) : InfoField :=
  ⟨.ofList (trimChars (p.takeWhile (· ≠ '='))),
    .ofList (trimChars ((p.dropWhile (· ≠ '=')).drop 1))⟩

theorem ofPiece_append {before : List Char} (after : List Char) (h : '=' ∉ before) :
    ofPiece (before ++ '=' :: after) =
      ⟨.ofList (trimChars before), .ofList (trimChars after)⟩ := by
  have hne : ∀ c ∈ before, decide (c ≠ '=') = true := by
    intro c hc
    exact decide_eq_true (ne_of_mem_of_not_mem hc h)
  rw [ofPiece, List.takeWhile_append_of_pos hne, List.dropWhile_append_of_pos hne,
    List.takeWhile_cons_of_neg (by simp), List.dropWhile_cons_of_neg (by simp), List.append_nil,
    List.drop_one, List.tail_cons]

/-- A piece is read as the field that it holds, if it has an equality sign. -/
theorem ofChars?_trimChars (p : List Char) :
    ofChars? (trimChars p) = if '=' ∈ p then some (ofPiece p) else none := by
  have hsign : ∀ l : List Char, (∀ c ∈ l, isBlank c = true) → '=' ∉ l := by
    intro l hl hmem
    exact absurd (hl '=' hmem) (by decide)
  obtain ⟨front, back, hp, hfront, hback⟩ := exists_blank_ends p
  by_cases hmem : '=' ∈ trimChars p
  · obtain ⟨before, after, hcut, hbefore⟩ := List.eq_append_cons_of_mem hmem
    have hpiece : p = (front ++ before) ++ '=' :: (after ++ back) := by
      rw [hp, hcut]
      simp
    have hkey : '=' ∉ front ++ before := by
      simpa [hbefore] using hsign front hfront
    rw [if_pos (mem_of_mem_trimChars hmem), ofChars?, hcut, cutAt_append after hbefore,
      Option.map_some, hpiece, ofPiece_append _ hkey, trimChars_append_left hfront,
      trimChars_append_right hback]
  · have hnone : '=' ∉ p := by
      rw [hp]
      simp [hmem, hsign front hfront, hsign back hback]
    rw [if_neg hnone, ofChars?, Option.map_eq_none_iff]
    cases hcut : cutAt '=' (trimChars p) with
    | none => rfl
    | some q => exact absurd (by rw [eq_append_of_cutAt hcut]; simp) hmem

/-- The fields that the pieces of an entry hold. -/
def ofEntry (e : List Char) : List InfoField := (nonblank ':' e).map ofPiece

/-- The last of the fields with the key has the value. -/
def Gives (fields : List InfoField) (key value : String) : Prop :=
  ∃ before after, fields = before ++ ⟨key, value⟩ :: after ∧ ∀ f ∈ after, f.key ≠ key

/-- The fields give a value to the key; an empty value does not count. -/
def Has (fields : List InfoField) (key : String) : Prop :=
  ∃ value, Gives fields key value ∧ value ≠ ""

/-- The first of the keys that has a value has this one. -/
def Provides (fields : List InfoField) (keys : List String) (value : String) : Prop :=
  ∃ before key after, keys = before ++ key :: after ∧ (∀ k ∈ before, ¬ Has fields k) ∧
    Gives fields key value ∧ value ≠ ""

variable {fields fields' : List InfoField} {key value : String} {keys : List String}

theorem last?_eq_some_iff : last? fields key = some value ↔ Gives fields key value := by
  simp only [last?, Option.map_eq_some_iff, List.find?_eq_some_iff_append]
  constructor
  · rintro ⟨⟨k, v⟩, ⟨hk, after, before, hfields, hafter⟩, rfl⟩
    obtain rfl : k = key := by simpa using hk
    refine ⟨before.reverse, after.reverse, ?_, ?_⟩
    · rw [← List.reverse_reverse fields, hfields]
      simp
    · simpa using hafter
  · rintro ⟨before, after, rfl, hafter⟩
    refine ⟨⟨key, value⟩, ⟨beq_self_eq_true key, after.reverse, before.reverse, ?_, ?_⟩, rfl⟩
    · simp
    · simpa using hafter

theorem filter_last?_eq_some_iff :
    (last? fields key).filter (· ≠ "") = some value ↔ Gives fields key value ∧ value ≠ "" := by
  rw [Option.filter_eq_some_iff, last?_eq_some_iff, decide_eq_true_iff]

theorem filter_last?_eq_none_iff :
    (last? fields key).filter (· ≠ "") = none ↔ ¬ Has fields key := by
  simp only [Option.eq_none_iff_forall_ne_some, ne_eq, filter_last?_eq_some_iff, Has, not_exists]

theorem first?_eq_some_iff : first? fields keys = some value ↔ Provides fields keys value := by
  simp only [first?, List.findSome?_eq_some_iff, filter_last?_eq_some_iff, filter_last?_eq_none_iff,
    Provides]
  constructor
  · rintro ⟨before, key, after, hkeys, hgives, hbefore⟩
    exact ⟨before, key, after, hkeys, hbefore, hgives⟩
  · rintro ⟨before, key, after, hkeys, hbefore, hgives⟩
    exact ⟨before, key, after, hkeys, hgives, hbefore⟩

theorem first?_eq_none_iff : first? fields keys = none ↔ ∀ key ∈ keys, ¬ Has fields key := by
  simp only [first?, List.findSome?_eq_none_iff, filter_last?_eq_none_iff]

/-- One of the keys provides a value exactly when one of them has a value. -/
theorem exists_provides_iff :
    (∃ value, Provides fields keys value) ↔ ∃ key ∈ keys, Has fields key := by
  constructor
  · rintro ⟨value, before, key, after, rfl, _, hvalue⟩
    exact ⟨key, by simp, value, hvalue⟩
  · rintro ⟨key, hkey, hhas⟩
    cases h : first? fields keys with
    | none => exact absurd hhas (first?_eq_none_iff.1 h key hkey)
    | some value => exact ⟨value, first?_eq_some_iff.1 h⟩

/-! What does not matter. -/

/-- Where no key is repeated, every field gives its value to its key. -/
theorem gives_iff_mem (h : (fields.map InfoField.key).Nodup) :
    Gives fields key value ↔ ⟨key, value⟩ ∈ fields := by
  constructor
  · rintro ⟨before, after, rfl, _⟩
    simp
  · intro hmem
    obtain ⟨before, after, rfl⟩ := List.append_of_mem hmem
    rw [List.map_append, List.map_cons] at h
    have hnew := (List.nodup_cons.1 (List.nodup_append.1 h).2.1).1
    exact ⟨before, after, rfl, fun f hf hkey => hnew (List.mem_map.2 ⟨f, hf, hkey⟩)⟩

/-- Fields with other keys do not matter. -/
theorem gives_filter {p : InfoField → Bool} (h : ∀ f : InfoField, f.key = key → p f = true) :
    Gives (fields.filter p) key value ↔ Gives fields key value := by
  have hfind : (fun f => decide (p f = true ∧ (f.key == key) = true)) =
      fun f : InfoField => f.key == key := by
    funext f
    rw [Bool.eq_iff_iff, decide_eq_true_iff, and_iff_right_of_imp fun hf => h f (beq_iff_eq.1 hf)]
  rw [← last?_eq_some_iff, ← last?_eq_some_iff, last?, ← List.filter_reverse, List.find?_filter,
    hfind, last?]

theorem Provides.congr (h : ∀ key ∈ keys, ∀ value, Gives fields key value ↔ Gives fields' key value)
    (hvalue : Provides fields keys value) : Provides fields' keys value := by
  obtain ⟨before, key, after, rfl, hbefore, hgives, hne⟩ := hvalue
  refine ⟨before, key, after, rfl, ?_, (h key (by simp) value).1 hgives, hne⟩
  rintro k hk ⟨v, hv, hvne⟩
  exact hbefore k hk ⟨v, (h k (by simp [hk]) v).2 hv, hvne⟩

end InfoField

end IndexPlanner

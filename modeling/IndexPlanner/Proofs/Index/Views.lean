import IndexPlanner.Proofs.Index.Coverage
import Mathlib.Data.List.Dedup

/-! The views of a snapshot. Whatever list it is made of, the indexes stand in the order of their
keys, one for each key and that the first of the list; the covered bins stand in their order, too;
and which bins are covered can be read off either. -/
namespace IndexPlanner

namespace IndexedField

/-- Covered bins are ordered by namespace, set and bin, and no set comes first. -/
def cmp : IndexedField → IndexedField → Ordering :=
  compareLex (compareOn space) (compareLex (compareOn set) (compareOn bin))

instance : Std.TransCmp cmp := inferInstanceAs (Std.TransCmp (compareLex (compareOn space)
  (compareLex (compareOn set) (compareOn bin))))

theorem eq_of_cmp_eq {f g : IndexedField} (h : cmp f g = .eq) : f = g := by
  simp only [cmp, compareLex_eq_eq, compareOn, Std.LawfulEqCmp.compare_eq_iff_eq] at h
  obtain ⟨hspace, hset, hbin⟩ := h
  cases f; cases g
  simp_all

/-- Keys are ordered by their bins, and keys of one bin by their types. -/
theorem cmp_key (i j : Index) : IndexKey.cmp i.key j.key =
    (cmp i.field j.field).then (compare (IndexType.rank i.type) (IndexType.rank j.type)) := by
  simp only [IndexKey.cmp, cmp, compareLex, compareOn, Index.key, Index.field, Ordering.then_assoc]

theorem isLE_cmp_of_key_lt {i j : Index} (h : IndexKey.cmp i.key j.key = .lt) :
    (cmp i.field j.field).isLE = true := by
  rw [cmp_key, Ordering.then_eq_lt] at h
  rcases h with h | ⟨h, _⟩
  · rw [h]
    rfl
  · rw [h]
    rfl

end IndexedField

namespace Snapshot

variable {s : Snapshot} {l l' : List Index} {key : IndexKey} {scope : Scope} {bin : String}

/-! The indexes by their keys. -/

theorem mem_keys_ofList_iff :
    key ∈ (ofList l).indexes.map Index.key ↔ key ∈ l.map Index.key := by
  simp only [List.mem_map]
  constructor
  · rintro ⟨i, hi, hkey⟩
    exact ⟨i, mem_of_mem_ofList hi, hkey⟩
  · rintro ⟨i, hi, rfl⟩
    exact exists_mem_ofList hi

theorem nodup_keys (s : Snapshot) : (s.indexes.map Index.key).Nodup := by
  rw [List.Nodup, List.pairwise_map]
  exact s.ascending.imp fun hlt => IndexKey.ne_of_cmp_ne_eq (by rw [hlt]; decide)

theorem keys_ofList_perm (l : List Index) :
    ((ofList l).indexes.map Index.key).Perm (l.map Index.key).dedup := by
  rw [List.perm_ext_iff_of_nodup (nodup_keys _) (List.nodup_dedup _)]
  intro key
  rw [mem_keys_ofList_iff, List.mem_dedup]

/-- A key is looked up as in the list. -/
theorem get?_ofList (l : List Index) (key : IndexKey) :
    (ofList l).get? key = l.find? (·.key == key) := by
  rw [get?]
  cases hfind : (ofList l).indexes.find? (·.key == key) with
  | some i =>
    have hkey : i.key = key := by simpa using List.find?_some hfind
    have hfirst := mem_ofList_iff.1 (List.mem_of_find?_eq_some hfind)
    rw [hkey] at hfirst
    exact hfirst.symm
  | none =>
    have hnone : ∀ i ∈ l, ¬ (i.key == key) = true := by
      intro i hi hkey
      obtain ⟨j, hj, hji⟩ := exists_mem_ofList hi
      have hj := List.find?_eq_none.1 hfind j hj
      rw [hji] at hj
      exact hj hkey
    exact (List.find?_eq_none.2 hnone).symm

/-! The covered bins. -/

theorem pairwise_dedupe {fs : List IndexedField}
    (h : fs.Pairwise fun f g => (IndexedField.cmp f g).isLE = true) :
    (fields.dedupe fs).Pairwise fun f g => IndexedField.cmp f g = .lt := by
  fun_induction fields.dedupe fs with
  | case1 => exact List.Pairwise.nil
  | case2 f => exact List.pairwise_singleton _ f
  | case3 g rest ih => exact ih h.of_cons
  | case4 f g rest hne ih =>
    obtain ⟨hf, hrest⟩ := List.pairwise_cons.1 h
    have hlt : IndexedField.cmp f g = .lt := by
      have hle := hf g List.mem_cons_self
      cases hcmp : IndexedField.cmp f g with
      | lt => rfl
      | eq => exact absurd (IndexedField.eq_of_cmp_eq hcmp) hne
      | gt => simp [hcmp] at hle
    refine List.pairwise_cons.2 ⟨?_, ih hrest⟩
    intro k hk
    rcases List.mem_cons.1 ((mem_dedupe_iff _).1 hk) with rfl | hk
    · exact hlt
    · exact Std.TransCmp.lt_of_lt_of_isLE hlt ((List.pairwise_cons.1 hrest).1 k hk)

/-- The covered bins stand in ascending order, so each of them stands there once. -/
theorem pairwise_fields (s : Snapshot) :
    s.fields.Pairwise fun f g => IndexedField.cmp f g = .lt := by
  apply pairwise_dedupe
  rw [List.pairwise_map]
  exact s.ascending.imp IndexedField.isLE_cmp_of_key_lt

theorem mem_fields_ofList_iff {f : IndexedField} :
    f ∈ (ofList l).fields ↔ ∃ i ∈ l, i.field = f := by
  rw [mem_fields_iff]
  constructor
  · rintro ⟨i, hi, hfield⟩
    exact ⟨i, mem_of_mem_ofList hi, hfield⟩
  · rintro ⟨i, hi, rfl⟩
    obtain ⟨j, hj, hkey⟩ := exists_mem_ofList hi
    exact ⟨j, hj, Index.field_eq_of_key_eq hkey⟩

/-- A bin is covered when it stands among the covered bins with its set or without one. -/
theorem hasIndexFor_iff_mem_fields : s.hasIndexFor scope bin = true ↔
    ⟨scope.space, scope.set, bin⟩ ∈ s.fields ∨ ⟨scope.space, none, bin⟩ ∈ s.fields := by
  simp only [hasIndexFor_iff, Index.covers_iff, mem_fields_iff, Index.field,
    IndexedField.mk.injEq]
  constructor
  · rintro ⟨i, hi, hspace, hbin, hset | hset⟩
    · exact .inl ⟨i, hi, hspace, hset, hbin⟩
    · exact .inr ⟨i, hi, hspace, hset, hbin⟩
  · rintro (⟨i, hi, hspace, hset, hbin⟩ | ⟨i, hi, hspace, hset, hbin⟩)
    · exact ⟨i, hi, hspace, hbin, .inl hset⟩
    · exact ⟨i, hi, hspace, hbin, .inr hset⟩

theorem hasIndexFor_ofList_congr (h : ∀ i, i ∈ l ↔ i ∈ l') :
    (ofList l).hasIndexFor scope bin = (ofList l').hasIndexFor scope bin := by
  rw [Bool.eq_iff_iff, hasIndexFor_ofList_iff, hasIndexFor_ofList_iff]
  simp only [h]

/-- What a snapshot says of the list that it is made of. Its indexes ascend strictly by key, one for
each key of the list, and that is the first of the list with the key. The covered bins ascend
strictly, too, and are those of all indexes in the list, dropped ones included; so a bin is covered
when an index of the list has its namespace and name, and its set or none. In which order the list
stands makes no difference to that. -/
theorem views_ofList (l : List Index) :
    Index.Ascending (ofList l).indexes ∧
    ((ofList l).indexes.map Index.key).Perm (l.map Index.key).dedup ∧
    (∀ key, (ofList l).get? key = l.find? (·.key == key)) ∧
    ((ofList l).fields.Pairwise fun f g => IndexedField.cmp f g = .lt) ∧
    (∀ f, f ∈ (ofList l).fields ↔ ∃ i ∈ l, i.field = f) ∧
    (∀ scope bin, ((ofList l).hasIndexFor scope bin = true ↔
        ∃ i ∈ l, i.space = scope.space ∧ i.bin = bin ∧ (i.set = scope.set ∨ i.set = none)) ∧
      ((ofList l).hasIndexFor scope bin = true ↔
        ⟨scope.space, scope.set, bin⟩ ∈ (ofList l).fields ∨
          ⟨scope.space, none, bin⟩ ∈ (ofList l).fields)) ∧
    ∀ l' : List Index, l.Perm l' → ∀ scope bin,
      (ofList l).hasIndexFor scope bin = (ofList l').hasIndexFor scope bin := by
  refine ⟨(ofList l).ascending, keys_ofList_perm l, get?_ofList l, pairwise_fields _,
    fun f => mem_fields_ofList_iff, ?_, ?_⟩
  · intro scope bin
    refine ⟨?_, hasIndexFor_iff_mem_fields⟩
    simp only [hasIndexFor_ofList_iff, Index.covers_iff]
  · intro l' hperm scope bin
    exact hasIndexFor_ofList_congr fun i => hperm.mem_iff

/-- Three indexes on one bin, two of them with one key, and one on the whole namespace. -/
def mixed : List Index :=
  [⟨"tags", "test", some "people", "tag", some .string, some .list⟩,
    ⟨"all tags", "test", none, "tag", some .string, some .mapKeys⟩,
    ⟨"more tags", "test", some "people", "tag", some .string, some .plain⟩,
    ⟨"odd tags", "test", some "people", "tag", none, none⟩]

/-- The index on the namespace comes first, then the one of unknown type; of the two with one key
the first of the list stays. -/
theorem views_ofList_mixed :
    (ofList mixed).indexes.map Index.name = ["all tags", "odd tags", "tags"] ∧
    (ofList mixed.reverse).indexes.map Index.name = ["all tags", "odd tags", "more tags"] ∧
    ∀ scope bin, (ofList mixed).hasIndexFor scope bin =
      (ofList mixed.reverse).hasIndexFor scope bin := by
  obtain ⟨_, _, _, _, _, _, hperm⟩ := views_ofList mixed
  refine ⟨by decide +kernel, by decide +kernel, hperm mixed.reverse ?_⟩
  exact (List.reverse_perm mixed).symm

end Snapshot

end IndexPlanner

import IndexPlanner.Proofs.Index.Snapshot

/-! Which bins a snapshot covers. An index that is dropped because an earlier one has its key covers
what that one covers, so coverage can be read off the list that the snapshot was made of. -/
namespace IndexPlanner

variable {i j : Index} {l : List Index} {scope : Scope} {bin : String}

namespace Index

theorem covers_iff : i.covers scope bin = true ↔
    i.space = scope.space ∧ i.bin = bin ∧ (i.set = scope.set ∨ i.set = none) := by
  simp [covers, and_assoc]

/-- The namespace, the set and the bin are all that coverage depends on. -/
theorem covers_congr (h : i.field = j.field) : i.covers scope bin = j.covers scope bin := by
  simp only [field, IndexedField.mk.injEq] at h
  obtain ⟨hspace, hset, hbin⟩ := h
  rw [covers, covers, hspace, hset, hbin]

theorem field_eq_of_key_eq (h : i.key = j.key) : i.field = j.field := by
  simp only [key, IndexKey.mk.injEq] at h
  obtain ⟨hspace, hset, hbin, _⟩ := h
  rw [field, field, hspace, hset, hbin]

end Index

namespace Snapshot

variable {s t : Snapshot}

theorem hasIndexFor_iff :
    s.hasIndexFor scope bin = true ↔ ∃ i ∈ s.indexes, i.covers scope bin = true := by
  rw [hasIndexFor, List.any_eq_true]

/-- Of each key that occurs in the list one index is kept. -/
theorem exists_mem_ofList (h : i ∈ l) : ∃ j ∈ (ofList l).indexes, j.key = i.key := by
  obtain ⟨j, hj⟩ : ∃ j, l.find? (·.key == i.key) = some j := by
    rw [← Option.isSome_iff_exists, List.find?_isSome]
    exact ⟨i, h, beq_self_eq_true i.key⟩
  have hkey : j.key = i.key := by simpa using List.find?_some hj
  exact ⟨j, mem_ofList_iff.2 (by rw [hkey]; exact hj), hkey⟩

/-- What is dropped does not change what is covered. -/
theorem hasIndexFor_ofList_iff :
    (ofList l).hasIndexFor scope bin = true ↔ ∃ i ∈ l, i.covers scope bin = true := by
  rw [hasIndexFor_iff]
  constructor
  · rintro ⟨i, hi, hcovers⟩
    exact ⟨i, mem_of_mem_ofList hi, hcovers⟩
  · rintro ⟨i, hi, hcovers⟩
    obtain ⟨j, hj, hkey⟩ := exists_mem_ofList hi
    refine ⟨j, hj, ?_⟩
    rw [Index.covers_congr (Index.field_eq_of_key_eq hkey), hcovers]

/-! The covered bins. -/

theorem mem_dedupe_iff {f : IndexedField} (l : List IndexedField) :
    f ∈ fields.dedupe l ↔ f ∈ l := by
  fun_induction fields.dedupe l with
  | case1 => rfl
  | case2 => rfl
  | case3 g rest ih => simp only [ih, List.mem_cons, or_self_left]
  | case4 g h rest _ ih => simp only [List.mem_cons, ih]

theorem mem_fields_iff {f : IndexedField} : f ∈ s.fields ↔ ∃ i ∈ s.indexes, i.field = f := by
  rw [fields, mem_dedupe_iff, List.mem_map]

/-- Where more bins are covered, a bin stays covered. -/
theorem hasIndexFor_mono (h : s.fields ⊆ t.fields) (hs : s.hasIndexFor scope bin = true) :
    t.hasIndexFor scope bin = true := by
  obtain ⟨i, hi, hcovers⟩ := hasIndexFor_iff.1 hs
  obtain ⟨j, hj, hfield⟩ := mem_fields_iff.1 (h (mem_fields_iff.2 ⟨i, hi, rfl⟩))
  exact hasIndexFor_iff.2 ⟨j, hj, by rw [Index.covers_congr hfield, hcovers]⟩

end Snapshot

end IndexPlanner

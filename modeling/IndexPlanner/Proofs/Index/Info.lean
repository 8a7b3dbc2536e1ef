import IndexPlanner.Proofs.Index.Entry
import IndexPlanner.Proofs.Index.Snapshot

/-! Descriptions of snapshots. A snapshot that has been read from a text is described by a text that
is read as the same snapshot. -/
namespace IndexPlanner

open Text

variable {i : Index} {l : List Index} {s : Snapshot}

theorem Index.isEntry_info (h : i.IsDescribable) :
    ';' ∉ i.info.toList ∧ Trimmed i.info.toList ∧ i.info.toList ≠ [] := by
  have hvalue : ∀ t ∈ i.describingFields.map InfoField.text, InfoField.IsValue t := by
    intro t ht
    obtain ⟨f, hf, rfl⟩ := List.mem_map.1 ht
    exact InfoField.isValue_text (isWritten_of_mem_describingFields h f hf)
  rw [info_eq_joinWith]
  refine ⟨?_, trimmed_joinWith (List.cons_ne_nil _ _) fun t ht =>
    ⟨(hvalue t ht).trimmed, (hvalue t ht).toList_ne_nil⟩⟩
  intro hc
  rcases mem_joinWith hc with hc | ⟨t, ht, hc⟩
  · exact absurd hc (by decide)
  · exact (hvalue t ht).semicolon hc

namespace Snapshot

theorem ofInfo_eq_ok_iff {text : String} :
    ofInfo text = .ok s ↔
      ∃ l, (parts ';' text.toList).mapM Index.ofInfoChars = .ok l ∧ ofList l = s :=
  map_eq_ok_iff

/-- Joined descriptions are read as the snapshot of the described indexes. -/
theorem ofInfo_joinWith_info (h : ∀ i ∈ l, i.IsDescribable) :
    ofInfo (joinWith ";" (l.map Index.info)) = .ok (ofList l) := by
  have hparts : parts ';' (joinWith ";" (l.map Index.info)).toList =
      l.map fun i => i.info.toList := by
    change parts ';' (joinWith (.singleton ';') (l.map Index.info)).toList = _
    rw [parts_joinWith, List.map_map]
    · rfl
    · intro t ht
      obtain ⟨i, hi, rfl⟩ := List.mem_map.1 ht
      exact Index.isEntry_info (h i hi)
  rw [ofInfo_eq_ok_iff, hparts]
  exact ⟨l, mapM_map_eq_ok fun i hi => Index.ofInfoChars_info (h i hi), rfl⟩

theorem isDescribable_of_ofInfo {text : String} (h : ofInfo text = .ok s) :
    ∀ i ∈ s.indexes, i.IsDescribable := by
  obtain ⟨l, hl, rfl⟩ := ofInfo_eq_ok_iff.1 h
  intro i hi
  obtain ⟨entry, hentry, hread⟩ := exists_of_mapM_eq_ok hl i (mem_of_mem_ofList hi)
  obtain ⟨_, _, hsemicolon, _⟩ := of_mem_parts hentry
  exact Index.isDescribable_of_ofInfoChars hsemicolon hread

/-- A snapshot is read from its own description exactly when all its indexes can be described. -/
theorem ofInfo_info_iff : ofInfo s.info = .ok s ↔ ∀ i ∈ s.indexes, i.IsDescribable := by
  constructor
  · exact isDescribable_of_ofInfo
  · intro h
    rw [info, ofInfo_joinWith_info h, ofList_indexes]

/-- Whatever text a snapshot has been read from, its own description is read as the same
snapshot. -/
theorem ofInfo_info_of_ofInfo {text : String} (h : ofInfo text = .ok s) :
    ofInfo s.info = .ok s :=
  ofInfo_info_iff.2 (isDescribable_of_ofInfo h)

/-- Two entries with blanks, names of their own for keys, an equality sign in a value, a set that
is none, and a type and a shape that are not known. -/
theorem ofInfo_info_of_ofInfo_unknown :
    ∃ s, ofInfo " ns = a=b :set=NULL: name=odd:bins=tags:type=BLOB:indextype=TREE:state=RW;;\n
      namespace=a:set= s t :indexname=geo:bin=loc:type=GEOJSON:indextype=NONE" = .ok s ∧
      s = ofList [⟨"odd", "a=b", none, "tags", none, none⟩,
        ⟨"geo", "a", some "s t", "loc", some .geo, some .plain⟩] ∧
      ofInfo s.info = .ok s := by
  have h : ofInfo " ns = a=b :set=NULL: name=odd:bins=tags:type=BLOB:indextype=TREE:state=RW;;\n
      namespace=a:set= s t :indexname=geo:bin=loc:type=GEOJSON:indextype=NONE" =
      .ok (ofList [⟨"odd", "a=b", none, "tags", none, none⟩,
        ⟨"geo", "a", some "s t", "loc", some .geo, some .plain⟩]) :=
    eq_ok_of_toOption (by decide +kernel)
  exact ⟨_, h, rfl, ofInfo_info_of_ofInfo h⟩

end Snapshot

end IndexPlanner

import IndexPlanner.Proofs.Index.Grammar
import IndexPlanner.Proofs.Index.Views

/-! Texts one behind the other. With a semicolon between them, two texts are one text with the
entries of both, whatever blanks or separators they end with. So it is read when both are, and what
it describes is what the first one describes, with what the second one adds to that. -/
namespace IndexPlanner

namespace Snapshot

open Index Text

variable {s t u : Snapshot} {scope : Scope} {bin : String}

/-! A snapshot is known by the index that it has for each key. -/

theorem mem_indexes_iff {i : Index} : i ∈ s.indexes ↔ s.get? i.key = some i := by
  have h : i ∈ (ofList s.indexes).indexes ↔ s.get? i.key = some i := mem_ofList_iff
  rwa [ofList_indexes] at h

theorem ext_get? (h : ∀ key, s.get? key = t.get? key) : s = t := by
  have hnodup : ∀ v : Snapshot, v.indexes.Nodup := fun v => (nodup_keys v).of_map
  have hperm : s.indexes.Perm t.indexes := by
    rw [List.perm_ext_iff_of_nodup (hnodup s) (hnodup t)]
    intro i
    rw [mem_indexes_iff, mem_indexes_iff, h]
  refine ext (hperm.eq_of_pairwise ?_ s.ascending t.ascending)
  intro i j _ _ hij hji
  have hself : IndexKey.cmp i.key i.key = .lt := Std.TransCmp.lt_trans hij hji
  exact absurd rfl (IndexKey.ne_of_cmp_ne_eq (by rw [hself]; decide))

/-! Two snapshots in one. -/

/-- The indexes of both snapshots; of two with one key that of the first snapshot stays. -/
def merge (s t : Snapshot) : Snapshot := ofList (s.indexes ++ t.indexes)

theorem get?_merge (s t : Snapshot) (key : IndexKey) :
    (s.merge t).get? key = (s.get? key).or (t.get? key) := by
  rw [merge, get?_ofList, List.find?_append]
  rfl

theorem eq_merge_iff : u = s.merge t ↔ ∀ key, u.get? key = (s.get? key).or (t.get? key) := by
  constructor
  · rintro rfl
    exact get?_merge s t
  · intro h
    exact ext_get? fun key => by rw [h, get?_merge]

theorem hasIndexFor_merge : (s.merge t).hasIndexFor scope bin =
    (s.hasIndexFor scope bin || t.hasIndexFor scope bin) := by
  rw [Bool.eq_iff_iff, merge, hasIndexFor_ofList_iff, Bool.or_eq_true, hasIndexFor_iff,
    hasIndexFor_iff]
  simp only [List.mem_append, or_and_right, exists_or]

theorem ofList_append (l l' : List Index) : ofList (l ++ l') = (ofList l).merge (ofList l') :=
  eq_merge_iff.2 fun key => by
    rw [get?_ofList, get?_ofList, get?_ofList, List.find?_append]

/-! Two texts in one. -/

theorem entries_append (a b : String) : entries (a ++ ";" ++ b) = entries a ++ entries b := by
  have htext : (a ++ ";" ++ b).toList = a.toList ++ ';' :: b.toList := by simp
  rw [entries, nonblank, htext, List.splitOn_append_cons_self, List.filter_append]
  rfl

/-- Two texts are read as one text: the first one, then the second one. -/
theorem ofInfo_append (a b : String) :
    ofInfo (a ++ ";" ++ b) = ofInfo a >>= fun s => (ofInfo b).map s.merge := by
  rw [ofInfo_eq_mapM_entries, ofInfo_eq_mapM_entries, ofInfo_eq_mapM_entries, entries_append,
    List.mapM_append]
  cases (entries a).mapM fun e => ofInfoChars (trimChars e) with
  | error e => rfl
  | ok l =>
    cases (entries b).mapM fun e => ofInfoChars (trimChars e) with
    | error e => rfl
    | ok l' => exact congrArg Except.ok (ofList_append l l')

theorem ofInfo_append_eq_ok_iff {a b : String} : ofInfo (a ++ ";" ++ b) = .ok u ↔
    ∃ s t, ofInfo a = .ok s ∧ ofInfo b = .ok t ∧ u = s.merge t := by
  rw [ofInfo_append, bind_eq_ok_iff]
  simp only [map_eq_ok_iff, eq_comm (a := u), exists_and_left]

theorem ofInfo_append_eq_error_iff {a b : String} {e : InfoError} :
    ofInfo (a ++ ";" ++ b) = .error e ↔
      ofInfo a = .error e ∨ (∃ s, ofInfo a = .ok s) ∧ ofInfo b = .error e := by
  rw [ofInfo_append]
  cases ofInfo a with
  | error e' => simp [bind, Except.bind]
  | ok s => cases ofInfo b <;> simp [bind, Except.bind, Except.map]

/-- Two texts with a semicolon between them are read exactly when each of them is. The index for a
key is then that of the first text, if it has one, and otherwise that of the second; a bin is
covered when one of the two covers it. If a text cannot be read, the error is that of the first
such text. -/
theorem ofInfo_compose (a b : String) :
    ((∃ u, ofInfo (a ++ ";" ++ b) = .ok u) ↔
      (∃ s, ofInfo a = .ok s) ∧ ∃ t, ofInfo b = .ok t) ∧
    (∀ u, ofInfo (a ++ ";" ++ b) = .ok u ↔ ∃ s t, ofInfo a = .ok s ∧ ofInfo b = .ok t ∧
      ∀ key, u.get? key = (s.get? key).or (t.get? key)) ∧
    (∀ s t u, ofInfo a = .ok s → ofInfo b = .ok t → ofInfo (a ++ ";" ++ b) = .ok u →
      ∀ scope bin, u.hasIndexFor scope bin =
        (s.hasIndexFor scope bin || t.hasIndexFor scope bin)) ∧
    ∀ e, ofInfo (a ++ ";" ++ b) = .error e ↔
      ofInfo a = .error e ∨ (∃ s, ofInfo a = .ok s) ∧ ofInfo b = .error e := by
  refine ⟨?_, ?_, ?_, fun e => ofInfo_append_eq_error_iff⟩
  · constructor
    · rintro ⟨u, hu⟩
      obtain ⟨s, t, hs, ht, _⟩ := ofInfo_append_eq_ok_iff.1 hu
      exact ⟨⟨s, hs⟩, t, ht⟩
    · rintro ⟨⟨s, hs⟩, t, ht⟩
      exact ⟨s.merge t, ofInfo_append_eq_ok_iff.2 ⟨s, t, hs, ht, rfl⟩⟩
  · intro u
    simp only [ofInfo_append_eq_ok_iff, eq_merge_iff]
  · intro s t u hs ht hu scope bin
    obtain ⟨s', t', hs', ht', rfl⟩ := ofInfo_append_eq_ok_iff.1 hu
    cases hs.symm.trans hs'
    cases ht.symm.trans ht'
    exact hasIndexFor_merge

/-- A text that ends with separators and a blank, and one that begins with them. -/
def former : String := "ns=a:set=s:name=i:bin=b:type=STRING:indextype=LIST; ;"

/-- Its first entry has the key of the entry in the other text. -/
def latter : String :=
  " ;ns=a:set=s:name=j:bin=b:type=STRING:indextype=NONE;ns=a:name=k:bin=c:type=BLOB:indextype=NONE"

/-- The index of the former text stays, and the latter one adds a bin that is covered everywhere. -/
theorem ofInfo_compose_repeated :
    ∃ u, ofInfo (former ++ ";" ++ latter) = .ok u ∧
      (u.get? ⟨"a", some "s", "b", some .string⟩).map Index.name = some "i" ∧
      (u.get? ⟨"a", none, "c", none⟩).map Index.name = some "k" ∧
      u.hasIndexFor ⟨"a", some "any"⟩ "c" = true := by
  obtain ⟨hread, hkeys, hcovers, _⟩ := ofInfo_compose former latter
  have hformer : ofInfo former =
      .ok (ofList [⟨"i", "a", some "s", "b", some .string, some .list⟩]) :=
    eq_ok_of_toOption (by decide +kernel)
  have hlatter : ofInfo latter = .ok (ofList [⟨"j", "a", some "s", "b", some .string, some .plain⟩,
      ⟨"k", "a", none, "c", none, some .plain⟩]) :=
    eq_ok_of_toOption (by decide +kernel)
  obtain ⟨u, hu⟩ := hread.2 ⟨⟨_, hformer⟩, _, hlatter⟩
  obtain ⟨s, t, hs, ht, hget⟩ := (hkeys u).1 hu
  cases hformer.symm.trans hs
  cases hlatter.symm.trans ht
  refine ⟨u, hu, ?_, ?_, ?_⟩
  · rw [hget]
    decide +kernel
  · rw [hget]
    decide +kernel
  · rw [hcovers _ _ u hformer hlatter hu]
    decide +kernel

end Snapshot

end IndexPlanner

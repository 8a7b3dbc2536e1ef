import IndexPlanner.Index.Info
import IndexPlanner.Proofs.Outcome
import IndexPlanner.Proofs.Text.Pieces

/-! Descriptions of single indexes. What reading an entry gives can be described again, since its
texts hold no separator and have been trimmed; and a description is read as the index it is of. -/
namespace IndexPlanner

open Text

variable {separator : Char} {cs p : List Char}

theorem of_mem_parts (h : p ∈ parts separator cs) :
    p ≠ [] ∧ Trimmed p ∧ separator ∉ p ∧ ∀ c ∈ p, c ∈ cs := by
  obtain ⟨hp, hne⟩ := List.mem_filter.1 h
  obtain ⟨q, hq, rfl⟩ := List.mem_map.1 hp
  obtain ⟨hsep, hmem⟩ := of_mem_pieces hq
  exact ⟨by simpa using hne, trimmed_trimChars q, fun hc => hsep (mem_of_mem_trimChars hc),
    fun c hc => hmem c (mem_of_mem_trimChars hc)⟩

/-- Joined texts are parted again when they are not blank, trimmed, and without the separator. -/
theorem parts_joinWith {ss : List String}
    (h : ∀ s ∈ ss, separator ∉ s.toList ∧ Trimmed s.toList ∧ s.toList ≠ []) :
    parts separator (joinWith (.singleton separator) ss).toList = ss.map String.toList := by
  cases ss with
  | nil => simp [parts, joinWith, pieces]
  | cons s ss =>
    have htrim : ∀ q ∈ (s :: ss).map String.toList, trimChars q = id q := by
      intro q hq
      obtain ⟨t, ht, rfl⟩ := List.mem_map.1 hq
      exact trimChars_eq_self (h t ht).2.1
    have hne : ∀ q ∈ (s :: ss).map String.toList, (!q.isEmpty) = true := by
      intro q hq
      obtain ⟨t, ht, rfl⟩ := List.mem_map.1 hq
      simp [(h t ht).2.2]
    rw [parts, pieces_joinWith fun t ht => (h t ht).1, List.map_congr_left htrim, List.map_id,
      List.filter_eq_self.2 hne]

namespace InfoField

/-- A text that an entry can carry as a value. -/
structure IsValue (s : String) : Prop where
  nonempty : s ≠ ""
  trimmed : Trimmed s.toList
  semicolon : ';' ∉ s.toList
  colon : ':' ∉ s.toList

theorem IsValue.toList_ne_nil {s : String} (h : IsValue s) : s.toList ≠ [] := by
  intro hs
  exact h.nonempty (String.toList_eq_nil_iff.1 hs)

instance : DecidablePred IsValue := fun s =>
  decidable_of_iff (s ≠ "" ∧ Trimmed s.toList ∧ ';' ∉ s.toList ∧ ':' ∉ s.toList)
    ⟨fun ⟨h₁, h₂, h₃, h₄⟩ => ⟨h₁, h₂, h₃, h₄⟩, fun ⟨h₁, h₂, h₃, h₄⟩ => ⟨h₁, h₂, h₃, h₄⟩⟩

/-- The text of a field. -/
def text (f : InfoField) : String := f.key ++ "=" ++ f.value

/-- Fields as descriptions have them: a plain word for a key, and something for a value. -/
structure IsWritten (f : InfoField) : Prop where
  key : IsValue f.key
  equals : '=' ∉ f.key.toList
  value : IsValue f.value

variable {f : InfoField}

theorem toList_text (f : InfoField) : f.text.toList = f.key.toList ++ ['='] ++ f.value.toList := by
  simp [text]

theorem ofChars?_text (h : f.IsWritten) : ofChars? f.text.toList = some f := by
  rw [ofChars?, toList_text, List.append_assoc, List.singleton_append, cutAt_append _ h.equals,
    Option.map_some, trimChars_eq_self h.key.trimmed, trimChars_eq_self h.value.trimmed,
    String.ofList_toList, String.ofList_toList]

theorem isValue_text (h : f.IsWritten) : IsValue f.text where
  nonempty := by
    intro htext
    have hlist := toList_text f
    rw [htext] at hlist
    simp at hlist
  trimmed := by
    rw [toList_text]
    exact h.key.trimmed.append h.key.toList_ne_nil _ h.value.trimmed h.value.toList_ne_nil
  semicolon := by simp [toList_text, h.key.semicolon, h.value.semicolon]
  colon := by simp [toList_text, h.key.colon, h.value.colon]

/-- A field that has been read holds nothing but what its text held. -/
theorem of_ofChars? (h : ofChars? cs = some f) :
    Trimmed f.value.toList ∧ ∀ c ∈ f.value.toList, c ∈ cs := by
  obtain ⟨⟨before, after⟩, hcut, rfl⟩ := Option.map_eq_some_iff.1 h
  have hcs := eq_append_of_cutAt hcut
  rw [String.toList_ofList]
  refine ⟨trimmed_trimChars after, ?_⟩
  intro c hc
  rw [hcs, List.mem_append]
  exact .inr (.tail _ (mem_of_mem_trimChars hc))

variable {fields : List InfoField} {key value : String} {keys : List String}

theorem exists_of_last? (h : last? fields key = some value) : ∃ f ∈ fields, f.value = value := by
  obtain ⟨f, hf, rfl⟩ := Option.map_eq_some_iff.1 h
  exact ⟨f, List.mem_reverse.1 (List.mem_of_find?_eq_some hf), rfl⟩

theorem first?_eq_some (h : last? fields key = some value) (hne : value ≠ "") :
    first? fields (key :: keys) = some value := by
  have hkept : (last? fields key).filter (· ≠ "") = some value := by
    rw [h, Option.filter_some_pos (by simpa using hne)]
  exact List.findSome?_cons_of_isSome (by rw [hkept]; rfl) |>.trans hkept

theorem exists_of_first? (h : first? fields keys = some value) :
    value ≠ "" ∧ ∃ f ∈ fields, f.value = value := by
  obtain ⟨key, _, hkey⟩ := List.exists_of_findSome?_eq_some h
  obtain ⟨hlast, hne⟩ := Option.filter_eq_some_iff.1 hkey
  exact ⟨by simpa using hne, exists_of_last? hlast⟩

end InfoField

open InfoField (IsValue)

namespace Index

/-- An index that an entry can describe. -/
structure IsDescribable (i : Index) : Prop where
  name : IsValue i.name
  space : IsValue i.space
  bin : IsValue i.bin
  set : ∀ s ∈ i.set, IsValue s ∧ asciiLower s ≠ "null"

instance : DecidablePred IsDescribable := fun i =>
  decidable_of_iff (IsValue i.name ∧ IsValue i.space ∧ IsValue i.bin ∧
      ∀ s ∈ i.set, IsValue s ∧ asciiLower s ≠ "null")
    ⟨fun ⟨h₁, h₂, h₃, h₄⟩ => ⟨h₁, h₂, h₃, h₄⟩, fun ⟨h₁, h₂, h₃, h₄⟩ => ⟨h₁, h₂, h₃, h₄⟩⟩

/-- The fields that describe the index. -/
def describingFields (i : Index) : List InfoField :=
  [⟨"ns", i.space⟩, ⟨"set", i.set.getD "NULL"⟩, ⟨"indexname", i.name⟩, ⟨"bin", i.bin⟩,
    ⟨"type", (i.type.map IndexType.name).getD "UNKNOWN"⟩,
    ⟨"indextype", (i.shape.map IndexShape.name).getD "UNKNOWN"⟩]

theorem info_eq_joinWith (i : Index) :
    i.info = joinWith (.singleton ':') (i.describingFields.map InfoField.text) := by
  delta info
  simp only [describingFields, List.map_cons, List.map_nil, joinWith, InfoField.text,
    String.append_assoc]
  rfl

variable {i : Index}

theorem isWritten_of_mem_describingFields (h : i.IsDescribable) :
    ∀ f ∈ i.describingFields, f.IsWritten := by
  have hset : IsValue (i.set.getD "NULL") := by
    cases hs : i.set with
    | none => decide
    | some s => exact (h.set s hs).1
  have htype : IsValue ((i.type.map IndexType.name).getD "UNKNOWN") := by
    rcases i.type with _ | (_ | _ | _) <;> decide
  have hshape : IsValue ((i.shape.map IndexShape.name).getD "UNKNOWN") := by
    rcases i.shape with _ | (_ | _ | _ | _) <;> decide
  have hkeys : ∀ k ∈ i.describingFields.map InfoField.key, IsValue k ∧ '=' ∉ k.toList := by
    change ∀ k ∈ ["ns", "set", "indexname", "bin", "type", "indextype"], _
    decide
  have hvalues : ∀ v ∈ i.describingFields.map InfoField.value, IsValue v := by
    simp [describingFields, h.space, hset, h.name, h.bin, htype, hshape]
  intro f hf
  obtain ⟨hkey, hequals⟩ := hkeys f.key (List.mem_map_of_mem hf)
  exact ⟨hkey, hequals, hvalues f.value (List.mem_map_of_mem hf)⟩

theorem infoFields_info (h : i.IsDescribable) :
    infoFields i.info.toList = .ok i.describingFields := by
  have hwritten := isWritten_of_mem_describingFields h
  have hparts : parts ':' i.info.toList =
      i.describingFields.map fun f => f.text.toList := by
    rw [info_eq_joinWith, parts_joinWith, List.map_map]
    · rfl
    · intro s hs
      obtain ⟨f, hf, rfl⟩ := List.mem_map.1 hs
      have hvalue := InfoField.isValue_text (hwritten f hf)
      exact ⟨hvalue.colon, hvalue.trimmed, hvalue.toList_ne_nil⟩
  rw [infoFields, hparts]
  apply mapM_map_eq_ok
  intro f hf
  rw [InfoField.ofChars?_text (hwritten f hf)]

theorem ofName?_name_type (t : Option IndexType) :
    IndexType.ofName? ((t.map IndexType.name).getD "UNKNOWN") = t := by
  rcases t with _ | (_ | _ | _) <;> decide

theorem ofName?_name_shape (s : Option IndexShape) :
    IndexShape.ofName? ((s.map IndexShape.name).getD "UNKNOWN") = s := by
  rcases s with _ | (_ | _ | _ | _) <;> decide

theorem setOf_getD (h : i.IsDescribable) : setOf (some (i.set.getD "NULL")) = i.set := by
  cases hs : i.set with
  | none => decide
  | some s =>
    obtain ⟨hvalue, hnull⟩ := h.set s hs
    simp [setOf, hvalue.nonempty, hnull]

/-- What an entry must have to describe an index. -/
theorem ofInfoChars_eq_ok_iff {entry : List Char} :
    ofInfoChars entry = .ok i ↔ ∃ fields type shape, infoFields entry = .ok fields ∧
      require entry fields "indexname" ["name"] = .ok i.name ∧
      require entry fields "ns" ["namespace"] = .ok i.space ∧
      require entry fields "bin" ["bins"] = .ok i.bin ∧
      require entry fields "type" [] = .ok type ∧
      require entry fields "indextype" [] = .ok shape ∧
      i.set = setOf (InfoField.last? fields "set") ∧
      i.type = IndexType.ofName? type ∧ i.shape = IndexShape.ofName? shape := by
  simp only [ofInfoChars, bind_eq_ok_iff]
  constructor
  · rintro ⟨fields, hfields, name, hname, space, hspace, bin, hbin, type, htype, shape, hshape, h⟩
    cases h
    exact ⟨fields, type, shape, hfields, hname, hspace, hbin, htype, hshape, rfl, rfl, rfl⟩
  · rintro ⟨fields, type, shape, hfields, hname, hspace, hbin, htype, hshape, hset, hty, hsh⟩
    refine ⟨fields, hfields, i.name, hname, i.space, hspace, i.bin, hbin, type, htype, shape,
      hshape, ?_⟩
    rw [← hset, ← hty, ← hsh]
    rfl

theorem require_eq_ok_iff {entry : List Char} {fields : List InfoField} {key value : String}
    {others : List String} : require entry fields key others = .ok value ↔
      InfoField.first? fields (key :: others) = some value := by
  rw [require]
  split <;> simp_all

/-- The description of an index is read as that index. -/
theorem ofInfoChars_info (h : i.IsDescribable) : ofInfoChars i.info.toList = .ok i := by
  have hrequire : ∀ (key value : String) (others : List String),
      InfoField.last? i.describingFields key = some value →
        require i.info.toList i.describingFields key others = .ok value := by
    intro key value others hlast
    obtain ⟨f, hf, rfl⟩ := InfoField.exists_of_last? hlast
    have hvalue := (isWritten_of_mem_describingFields h f hf).value
    exact require_eq_ok_iff.2 (InfoField.first?_eq_some hlast hvalue.nonempty)
  refine ofInfoChars_eq_ok_iff.2 ⟨i.describingFields, _, _, infoFields_info h,
    hrequire _ _ _ rfl, hrequire _ _ _ rfl, hrequire _ _ _ rfl, hrequire _ _ _ rfl,
    hrequire _ _ _ rfl, ?_, (ofName?_name_type i.type).symm, (ofName?_name_shape i.shape).symm⟩
  exact (setOf_getD h).symm

/-- The texts that are read from an entry without semicolons are values again. -/
theorem isValue_of_infoFields {entry : List Char} {fields : List InfoField} {f : InfoField}
    (hsemicolon : ';' ∉ entry) (h : infoFields entry = .ok fields) (hf : f ∈ fields)
    (hne : f.value ≠ "") : IsValue f.value := by
  obtain ⟨part, hpart, hread⟩ := exists_of_mapM_eq_ok h f hf
  obtain ⟨_, _, hcolon, hmem⟩ := of_mem_parts hpart
  split at hread
  · next g hg =>
    cases hread
    obtain ⟨htrim, hvalue⟩ := InfoField.of_ofChars? hg
    exact ⟨hne, htrim, fun hc => hsemicolon (hmem _ (hvalue _ hc)), fun hc => hcolon (hvalue _ hc)⟩
  · cases hread

/-- What is read from an entry can be described. -/
theorem isDescribable_of_ofInfoChars {entry : List Char} (hsemicolon : ';' ∉ entry)
    (h : ofInfoChars entry = .ok i) : i.IsDescribable := by
  obtain ⟨fields, type, shape, hfields, hname, hspace, hbin, _, _, hset, _, _⟩ :=
    ofInfoChars_eq_ok_iff.1 h
  have hrequired : ∀ {key value : String} {others : List String},
      require entry fields key others = .ok value → IsValue value := by
    intro key value others hreq
    obtain ⟨hne, f, hf, rfl⟩ := InfoField.exists_of_first? (require_eq_ok_iff.1 hreq)
    exact isValue_of_infoFields hsemicolon hfields hf hne
  refine ⟨hrequired hname, hrequired hspace, hrequired hbin, ?_⟩
  intro s hs
  rw [hset, Option.mem_def] at hs
  obtain ⟨hlast, hs⟩ := Option.filter_eq_some_iff.1 hs
  obtain ⟨hne, hnull⟩ := of_decide_eq_true hs
  obtain ⟨f, hf, rfl⟩ := InfoField.exists_of_last? hlast
  exact ⟨isValue_of_infoFields hsemicolon hfields hf hne, hnull⟩

end Index

end IndexPlanner

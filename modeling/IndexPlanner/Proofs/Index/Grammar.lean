import IndexPlanner.Proofs.Index.Fields
import IndexPlanner.Proofs.Index.Info

/-! The grammar of the texts that describe indexes: which entries describe an index, which index it
is, what spoils the others, and what in an entry does not matter. A text is read when all its
entries are of the grammar; otherwise the first entry that is not is the error. -/
namespace IndexPlanner

open Text
open InfoField (Gives Has Provides ofEntry ofPiece)

/-- What is looked up by its name is the value with that name, or absent if there is none. -/
theorem eq_find?_name_iff {α : Type} {values : List α} {name : α → String} {value : Option α}
    {s : String} (hall : ∀ a, a ∈ values) (hname : ∀ a b, name a = name b → a = b) :
    value = values.find? (name · == s) ↔ ∀ a, value = some a ↔ name a = s := by
  have hfind : ∀ a, values.find? (name · == s) = some a ↔ name a = s := by
    intro a
    constructor
    · intro h
      simpa using List.find?_some h
    · rintro rfl
      have hsome : (values.find? (name · == name a)).isSome :=
        List.find?_isSome.2 ⟨a, hall a, by simp⟩
      obtain ⟨b, hb⟩ := Option.isSome_iff_exists.1 hsome
      rw [hb, hname b a (by simpa using List.find?_some hb)]
  rw [Option.ext_iff]
  exact forall_congr' fun a => by rw [hfind]

theorem IndexType.eq_ofName?_iff {type : Option IndexType} {s : String} :
    type = ofName? s ↔ ∀ t, type = some t ↔ t.name = s := by
  refine eq_find?_name_iff (fun t => by cases t <;> decide) fun t u h => ?_
  cases t <;> cases u <;> first | rfl | exact absurd h (by decide)

theorem IndexShape.eq_ofName?_iff {shape : Option IndexShape} {s : String} :
    shape = ofName? s ↔ ∀ t, shape = some t ↔ t.name = s := by
  refine eq_find?_name_iff (fun t => by cases t <;> decide) fun t u h => ?_
  cases t <;> cases u <;> first | rfl | exact absurd h (by decide)

namespace Index

/-- The keys that an entry must have, in the order in which they are looked for, with their other
names. -/
def requiredKeys : List (String × List String) :=
  [("indexname", ["name"]), ("ns", ["namespace"]), ("bin", ["bins"]), ("type", []),
    ("indextype", [])]

/-- All the keys whose values count. -/
def knownKeys : List String := requiredKeys.flatMap (fun k => k.1 :: k.2) ++ ["set"]

/-- Each piece of the entry is a field, that is, has an equality sign. -/
def HasFields (e : List Char) : Prop := ∀ p ∈ nonblank ':' e, '=' ∈ p

/-- An entry of the grammar. -/
structure IsEntry (e : List Char) : Prop where
  fields : HasFields e
  filled : ∀ k ∈ requiredKeys, ∃ key ∈ k.1 :: k.2, Has (ofEntry e) key

/-- The entry describes the index. -/
structure Describes (e : List Char) (i : Index) : Prop where
  fields : HasFields e
  name : Provides (ofEntry e) ["indexname", "name"] i.name
  space : Provides (ofEntry e) ["ns", "namespace"] i.space
  bin : Provides (ofEntry e) ["bin", "bins"] i.bin
  set : ∀ s, i.set = some s ↔ Gives (ofEntry e) "set" s ∧ s ≠ "" ∧ asciiLower s ≠ "null"
  type : ∃ name, Provides (ofEntry e) ["type"] name ∧ ∀ t, i.type = some t ↔ t.name = name
  shape : ∃ name, Provides (ofEntry e) ["indextype"] name ∧ ∀ t, i.shape = some t ↔ t.name = name

/-- Why an entry is none of the grammar: its first piece without an equality sign or, when there is
no such piece, the first key that it lacks. -/
inductive Spoils (e : List Char) : InfoError → Prop
  | field {before p after} (pieces : nonblank ':' e = before ++ p :: after)
      (fields : ∀ q ∈ before, '=' ∈ q) (bad : '=' ∉ p) :
      Spoils e (.malformedField (.ofList (trimChars e)) (.ofList (trimChars p)))
  | key {before key others after} (fields : HasFields e)
      (keys : requiredKeys = before ++ (key, others) :: after)
      (filled : ∀ k ∈ before, ∃ key ∈ k.1 :: k.2, Has (ofEntry e) key)
      (lacks : ∀ k ∈ key :: others, ¬ Has (ofEntry e) k) :
      Spoils e (.missingKey (.ofList (trimChars e)) key)

/-- The fields of the entry that count. -/
def knownFields (e : List Char) : List InfoField := (ofEntry e).filter (·.key ∈ knownKeys)

/-- The second entry has the fields of the first that count, each key once, in whatever order and
among whatever other fields and blank pieces. -/
structure Rearranges (e e' : List Char) : Prop where
  fields : HasFields e ↔ HasFields e'
  known : (knownFields e).Perm (knownFields e')
  distinct : ((knownFields e).map InfoField.key).Nodup

instance : DecidablePred HasFields := fun e =>
  inferInstanceAs (Decidable (∀ p ∈ nonblank ':' e, '=' ∈ p))

instance : DecidableRel Rearranges := fun e e' =>
  decidable_of_iff ((HasFields e ↔ HasFields e') ∧ (knownFields e).Perm (knownFields e') ∧
      ((knownFields e).map InfoField.key).Nodup)
    ⟨fun ⟨h₁, h₂, h₃⟩ => ⟨h₁, h₂, h₃⟩, fun ⟨h₁, h₂, h₃⟩ => ⟨h₁, h₂, h₃⟩⟩

variable {e e' : List Char} {i : Index} {fields : List InfoField} {err : InfoError}

/-! Reading the fields. -/

theorem infoFields_trimChars (e : List Char) : infoFields (trimChars e) =
    (nonblank ':' e).mapM fun p => if '=' ∈ p then .ok (ofPiece p)
      else .error (.malformedField (.ofList (trimChars e)) (.ofList (trimChars p))) := by
  rw [infoFields, parts_trimChars (by decide), List.mapM_map]
  congr 1
  funext p
  rw [Function.comp_apply, InfoField.ofChars?_trimChars]
  by_cases hp : '=' ∈ p
  · rw [if_pos hp, if_pos hp]
  · rw [if_neg hp, if_neg hp]

theorem infoFields_eq_ok_iff :
    infoFields (trimChars e) = .ok fields ↔ HasFields e ∧ fields = ofEntry e := by
  have hpiece : ∀ (p : List Char) (f : InfoField), (if '=' ∈ p then .ok (ofPiece p)
      else .error (.malformedField (.ofList (trimChars e)) (.ofList (trimChars p))) :
        Except InfoError InfoField) = .ok f ↔ '=' ∈ p ∧ ofPiece p = f := by
    intro p f
    split <;> simp_all
  rw [infoFields_trimChars, mapM_eq_ok_iff_forall₂]
  simp only [hpiece, List.forall₂_and_left]
  rw [← List.forall₂_map_left_iff (R := Eq), List.forall₂_eq_eq_eq, HasFields, ofEntry,
    eq_comm (a := fields)]

theorem infoFields_eq_error_iff : infoFields (trimChars e) = .error err ↔
    ∃ before p after, nonblank ':' e = before ++ p :: after ∧ (∀ q ∈ before, '=' ∈ q) ∧ '=' ∉ p ∧
      err = .malformedField (.ofList (trimChars e)) (.ofList (trimChars p)) := by
  rw [infoFields_trimChars, mapM_eq_error_iff]
  constructor
  · rintro ⟨before, p, after, hpieces, hbefore, hp⟩
    refine ⟨before, p, after, hpieces, ?_, ?_⟩
    · intro q hq
      obtain ⟨f, hf⟩ := hbefore q hq
      split at hf
      · assumption
      · cases hf
    · split at hp
      · cases hp
      · next hsign =>
        cases hp
        exact ⟨hsign, rfl⟩
  · rintro ⟨before, p, after, hpieces, hbefore, hp, rfl⟩
    refine ⟨before, p, after, hpieces, fun q hq => ⟨ofPiece q, if_pos (hbefore q hq)⟩, if_neg hp⟩

/-! Reading an entry. -/

theorem eq_setOf_iff {set value : Option String} : set = setOf value ↔
    ∀ s, set = some s ↔ value = some s ∧ s ≠ "" ∧ asciiLower s ≠ "null" := by
  rw [Option.ext_iff]
  refine forall_congr' fun s => ?_
  rw [setOf, Option.filter_eq_some_iff, decide_eq_true_iff]

/-- An entry is read as the index that it describes. -/
theorem ofInfoChars_trimChars_eq_ok_iff : ofInfoChars (trimChars e) = .ok i ↔ Describes e i := by
  simp only [ofInfoChars_eq_ok_iff, infoFields_eq_ok_iff, require_eq_ok_iff,
    InfoField.first?_eq_some_iff, eq_setOf_iff, InfoField.last?_eq_some_iff,
    IndexType.eq_ofName?_iff, IndexShape.eq_ofName?_iff]
  constructor
  · rintro ⟨_, type, shape, ⟨hfields, rfl⟩, hname, hspace, hbin, ht, hs, hset, htn, hsn⟩
    exact ⟨hfields, hname, hspace, hbin, hset, ⟨type, ht, htn⟩, shape, hs, hsn⟩
  · rintro ⟨hfields, hname, hspace, hbin, hset, ⟨type, ht, htn⟩, shape, hs, hsn⟩
    exact ⟨_, type, shape, ⟨hfields, rfl⟩, hname, hspace, hbin, ht, hs, hset, htn, hsn⟩

theorem failure?_require_eq_some_iff {entry : List Char} {key : String} {others : List String} :
    failure? (require entry fields key others) = some err ↔
      (∀ k ∈ key :: others, ¬ Has fields k) ∧ err = .missingKey (.ofList entry) key := by
  rw [← InfoField.first?_eq_none_iff, require]
  cases InfoField.first? fields (key :: others) with
  | some value => simp [failure?]
  | none => simp [failure?, eq_comm]

theorem failure?_require_eq_none_iff {entry : List Char} {key : String} {others : List String} :
    failure? (require entry fields key others) = none ↔ ∃ k ∈ key :: others, Has fields k := by
  simp only [failure?_eq_none_iff, require_eq_ok_iff, InfoField.first?_eq_some_iff,
    InfoField.exists_provides_iff]

/-- With its fields read, an entry fails for the first required key that it lacks. -/
theorem failure?_ofInfoChars {entry : List Char} (h : infoFields entry = .ok fields) :
    failure? (ofInfoChars entry) =
      requiredKeys.findSome? fun k => failure? (require entry fields k.1 k.2) := by
  have hor : ∀ (k : String × List String) (ks : List (String × List String)),
      (k :: ks).findSome? (fun k => failure? (require entry fields k.1 k.2)) =
        (failure? (require entry fields k.1 k.2)).or
          (ks.findSome? fun k => failure? (require entry fields k.1 k.2)) := by
    intro k ks
    rw [← List.singleton_append, List.findSome?_append, List.findSome?_singleton]
  rw [ofInfoChars, h]
  simp only [requiredKeys, hor, List.findSome?_nil]
  change failure? (require entry fields "indexname" ["name"] >>= _) = _
  exact failure?_bind fun _ _ => failure?_bind fun _ _ => failure?_bind fun _ _ =>
    failure?_bind fun _ _ => failure?_bind fun _ _ => rfl

/-- An entry that is not read fails with what spoils it. -/
theorem ofInfoChars_trimChars_eq_error_iff :
    ofInfoChars (trimChars e) = .error err ↔ Spoils e err := by
  constructor
  · intro h
    cases hread : infoFields (trimChars e) with
    | error err' =>
      rw [ofInfoChars, hread] at h
      cases h
      obtain ⟨before, p, after, hpieces, hfields, hp, rfl⟩ := infoFields_eq_error_iff.1 hread
      exact .field hpieces hfields hp
    | ok fields =>
      obtain ⟨hfields, rfl⟩ := infoFields_eq_ok_iff.1 hread
      rw [← failure?_eq_some_iff, failure?_ofInfoChars hread, List.findSome?_eq_some_iff] at h
      obtain ⟨before, ⟨key, others⟩, after, hkeys, hkey, hbefore⟩ := h
      obtain ⟨hlacks, rfl⟩ := failure?_require_eq_some_iff.1 hkey
      exact .key hfields hkeys (fun k hk => failure?_require_eq_none_iff.1 (hbefore k hk)) hlacks
  · intro h
    cases h with
    | field hpieces hfields hp =>
      have hread := infoFields_eq_error_iff.2 ⟨_, _, _, hpieces, hfields, hp, rfl⟩
      rw [ofInfoChars, hread]
      rfl
    | key hfields hkeys hfilled hlacks =>
      have hread := infoFields_eq_ok_iff.2 ⟨hfields, rfl⟩
      rw [← failure?_eq_some_iff, failure?_ofInfoChars hread, List.findSome?_eq_some_iff]
      exact ⟨_, _, _, hkeys, failure?_require_eq_some_iff.2 ⟨hlacks, rfl⟩,
        fun k hk => failure?_require_eq_none_iff.2 (hfilled k hk)⟩

/-- The entries of the grammar are those that are read. -/
theorem isEntry_iff : IsEntry e ↔ ∃ i, ofInfoChars (trimChars e) = .ok i := by
  rw [← failure?_eq_none_iff]
  constructor
  · rintro ⟨hfields, hfilled⟩
    rw [failure?_ofInfoChars (infoFields_eq_ok_iff.2 ⟨hfields, rfl⟩), List.findSome?_eq_none_iff]
    exact fun k hk => failure?_require_eq_none_iff.2 (hfilled k hk)
  · intro h
    obtain ⟨i, hi⟩ := failure?_eq_none_iff.1 h
    obtain ⟨fields, _, _, hread, _⟩ := ofInfoChars_eq_ok_iff.1 hi
    rw [failure?_ofInfoChars hread, List.findSome?_eq_none_iff] at h
    obtain ⟨hfields, rfl⟩ := infoFields_eq_ok_iff.1 hread
    exact ⟨hfields, fun k hk => failure?_require_eq_none_iff.1 (h k hk)⟩

/-! What does not matter. -/

theorem Rearranges.symm (h : Rearranges e e') : Rearranges e' e :=
  ⟨h.fields.symm, h.known.symm, (h.known.map _).nodup_iff.1 h.distinct⟩

theorem Rearranges.gives {key value : String} (h : Rearranges e e') (hkey : key ∈ knownKeys) :
    Gives (ofEntry e) key value ↔ Gives (ofEntry e') key value := by
  have hknown : ∀ fields : List InfoField,
      Gives (fields.filter (·.key ∈ knownKeys)) key value ↔ Gives fields key value :=
    fun _ => InfoField.gives_filter fun f hf => by simp [hf, hkey]
  rw [← hknown (ofEntry e), ← hknown (ofEntry e')]
  exact (InfoField.gives_iff_mem h.distinct).trans
    (h.known.mem_iff.trans (InfoField.gives_iff_mem h.symm.distinct).symm)

theorem Rearranges.provides {keys : List String} {value : String} (h : Rearranges e e')
    (hkeys : ∀ key ∈ keys, key ∈ knownKeys) (hvalue : Provides (ofEntry e) keys value) :
    Provides (ofEntry e') keys value :=
  hvalue.congr fun _ hkey _ => h.gives (hkeys _ hkey)

theorem Rearranges.describes (h : Rearranges e e') (hi : Describes e i) : Describes e' i where
  fields := h.fields.1 hi.fields
  name := h.provides (by decide) hi.name
  space := h.provides (by decide) hi.space
  bin := h.provides (by decide) hi.bin
  set s := by rw [← h.gives (by decide), hi.set]
  type := by
    obtain ⟨name, hname, ht⟩ := hi.type
    exact ⟨name, h.provides (by decide) hname, ht⟩
  shape := by
    obtain ⟨name, hname, ht⟩ := hi.shape
    exact ⟨name, h.provides (by decide) hname, ht⟩

theorem forall₂_describes {es es' : List (List Char)} {l : List Index}
    (h : List.Forall₂ Rearranges es es') (hl : List.Forall₂ Describes es l) :
    List.Forall₂ Describes es' l := by
  induction h generalizing l with
  | nil => exact hl
  | cons he _ ih =>
    obtain ⟨i, rest, hi, hrest, rfl⟩ := List.forall₂_cons_left_iff.1 hl
    exact .cons (he.describes hi) (ih hrest)

end Index

namespace Snapshot

open Index

variable {text text' : String} {s : Snapshot} {err : InfoError}

/-- The entries of a text. -/
def entries (text : String) : List (List Char) := nonblank ';' text.toList

theorem ofInfo_eq_mapM_entries (text : String) :
    ofInfo text = ((entries text).mapM fun e => ofInfoChars (trimChars e)).map ofList := by
  rw [ofInfo, parts_eq_map_nonblank, List.mapM_map, entries]
  rfl

theorem ofInfo_eq_ok_iff_describes :
    ofInfo text = .ok s ↔ ∃ l, List.Forall₂ Describes (entries text) l ∧ s = ofList l := by
  simp only [ofInfo_eq_mapM_entries, map_eq_ok_iff, mapM_eq_ok_iff_forall₂,
    ofInfoChars_trimChars_eq_ok_iff, eq_comm (b := s)]

theorem exists_ofInfo_eq_ok_iff :
    (∃ s, ofInfo text = .ok s) ↔ ∀ e ∈ entries text, IsEntry e := by
  simp only [isEntry_iff, ← exists_mapM_eq_ok_iff, ofInfo_eq_mapM_entries, map_eq_ok_iff]
  constructor
  · rintro ⟨_, l, hl, _⟩
    exact ⟨l, hl⟩
  · rintro ⟨l, hl⟩
    exact ⟨ofList l, l, hl, rfl⟩

theorem ofInfo_eq_error_iff_spoils : ofInfo text = .error err ↔ ∃ before e after,
    entries text = before ++ e :: after ∧ (∀ g ∈ before, IsEntry g) ∧ Spoils e err := by
  rw [← failure?_eq_some_iff, ofInfo_eq_mapM_entries, failure?_map, failure?_eq_some_iff,
    mapM_eq_error_iff]
  simp only [isEntry_iff, ofInfoChars_trimChars_eq_error_iff]

example : failure? (ofInfo "ns=a:indexname=:name= i:type=STRING; ns") =
    some (.missingKey "ns=a:indexname=:name= i:type=STRING" "bin") := by decide +kernel

theorem ofInfo_of_rearranges (h : List.Forall₂ Rearranges (entries text) (entries text'))
    (hs : ofInfo text = .ok s) : ofInfo text' = .ok s := by
  obtain ⟨l, hl, rfl⟩ := ofInfo_eq_ok_iff_describes.1 hs
  exact ofInfo_eq_ok_iff_describes.2 ⟨l, forall₂_describes h hl, rfl⟩

/-- A text is read exactly when all its entries are of the grammar, as the snapshot of the indexes
that they describe in turn; otherwise what spoils the first entry that is not is the error. What
does not matter in an entry does not matter in a text. -/
theorem ofInfo_grammar (text : String) :
    ((∃ s, ofInfo text = .ok s) ↔ ∀ e ∈ entries text, IsEntry e) ∧
    (∀ s, ofInfo text = .ok s ↔
      ∃ l, List.Forall₂ Describes (entries text) l ∧ s = ofList l) ∧
    (∀ err, ofInfo text = .error err ↔ ∃ before e after,
      entries text = before ++ e :: after ∧ (∀ g ∈ before, IsEntry g) ∧ Spoils e err) ∧
    ∀ text', List.Forall₂ Rearranges (entries text) (entries text') →
      ∀ s, ofInfo text = .ok s ↔ ofInfo text' = .ok s := by
  refine ⟨exists_ofInfo_eq_ok_iff, fun s => ofInfo_eq_ok_iff_describes,
    fun err => ofInfo_eq_error_iff_spoils, fun text' h s => ?_⟩
  have hback : List.Forall₂ Rearranges (entries text') (entries text) :=
    (h.imp fun _ _ he => he.symm).flip
  exact ⟨ofInfo_of_rearranges h, ofInfo_of_rearranges hback⟩

/-- Two entries as they come from a cluster. -/
def orderly : String :=
  "ns=a:set=NULL:name=i:bin=b:type=STRING:indextype=LIST;
    ns=b:set=s:indexname=j:bins=c=d:type=BLOB:indextype=NONE"

/-- The two entries with their fields in another order, and with blank pieces, an unknown key that
is repeated, and a blank entry among them. -/
def disorderly : String :=
  " indextype = LIST::state=RW: bin=b:type=STRING: :set=NULL:name= i:ns=a;;
    state=x:set=s:state=:bins = c=d:type=BLOB:ns=b :indextype=NONE:indexname=j ; "

theorem ofInfo_grammar_disorderly :
    List.Forall₂ Rearranges (entries orderly) (entries disorderly) ∧
    ofInfo disorderly = .ok (ofList [⟨"i", "a", none, "b", some .string, some .list⟩,
      ⟨"j", "b", some "s", "c=d", none, some .plain⟩]) := by
  have h : List.Forall₂ Rearranges (entries orderly) (entries disorderly) := by decide +kernel
  refine ⟨h, ((ofInfo_grammar orderly).2.2.2 disorderly h _).1 ?_⟩
  exact eq_ok_of_toOption (by decide +kernel)

end Snapshot

end IndexPlanner

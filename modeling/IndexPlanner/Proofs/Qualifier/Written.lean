import IndexPlanner.Proofs.Json.Ordered
import IndexPlanner.Proofs.Qualifier.Fault
import IndexPlanner.Qualifier.Written

/-! Qualifiers that are written as values and read again. A qualifier that is well formed comes back
as it was, with one exception: a null that is an upper operand is written but not read. -/
namespace IndexPlanner

open Json (Document Value Members)

theorem DecodeError.eq_some_of_require {α : Type} {o : Option α} {a : α} (h : require o = .ok a) :
    o = some a := by
  cases o with
  | none => cases h
  | some b =>
    cases h
    rfl

open DecodeError (require eq_some_of_require)

namespace Leaf

variable {l : Leaf}

/-- The upper operand is there, and it is null. -/
def hasNullUpper (l : Leaf) : Bool := l.upper.any Value.isNull

/-- The operands of the leaf. -/
def values (l : Leaf) : List Value := l.operand :: l.upper.toList

/-- The written members in the order of their keys. -/
theorem toValue_eq (l : Leaf) : l.toValue = .object
    ([("field", .string l.field), ("ignore_case", .bool l.ignoreCase),
      ("operation", .string l.operation.name), ("value", l.operand)] ++
      l.upper.toList.map ("value2", ·)) := by
  have hcase : compare "ignore_case" "operation" = .lt := by decide
  have hgreater : ∀ p ∈ [("operation", "field"), ("ignore_case", "field"), ("value", "field"),
      ("value", "ignore_case"), ("value", "operation"), ("value2", "field"),
      ("value2", "ignore_case"), ("value2", "operation"), ("value2", "value")],
      compare p.1 p.2 = .gt := by decide
  simp only [List.forall_mem_cons] at hgreater
  cases h : l.upper <;>
    simp [toValue, h, Value.ofMembers, Members.ofList, Members.insert, hcase, hgreater]

theorem fields?_toValue (l : Leaf) : (Document.ofValue l.toValue).fields? fieldNames =
    some [some (.string l.field), some (.string l.operation.name), some (.bool l.ignoreCase),
      some (.ofValue l.operand), l.upper.map .ofValue] := by
  rw [toValue_eq]
  cases l.upper with
  | none => rfl
  | some v => rfl

/-- A second operand is read as it was written, unless it is null. -/
theorem optional?_ofValue {v : Value} (h : v.Ordered) :
    Document.optional? Document.value? (Document.ofValue v) =
      some (if v.isNull then none else some v) := by
  have hvalue := Document.value?_ofValue h
  cases v with
  | null => rfl
  | _ =>
    rw [Document.ofValue] at hvalue ⊢
    simp only [Document.optional?, hvalue]
    rfl

theorem ofFields?_toValue (h : ∀ v ∈ l.values, v.Ordered) :
    ((Document.ofValue l.toValue).fields? fieldNames).bind ofFields? =
      some { l with upper := l.upper.filter (!·.isNull) } := by
  obtain ⟨hoperand, hupper⟩ := List.forall_mem_cons.1 h
  have hread : Document.orDefault none (Document.optional? Document.value?)
      (l.upper.map .ofValue) = some (l.upper.filter (!·.isNull)) := by
    cases hv : l.upper with
    | none => rfl
    | some v =>
      have hordered : v.Ordered := hupper v (by simp [hv])
      rw [Option.map_some, Document.orDefault, optional?_ofValue hordered, Option.filter_some]
      cases v.isNull <;> rfl
  rw [fields?_toValue, Option.bind_some, ofFields?, hread, Document.value?_ofValue hoperand]
  simp only [Document.string?, Operation.decode?, Operation.ofName?_name, Document.orDefault,
    Document.bool?]
  rfl

theorem eq_of_not_hasNullUpper (h : l.hasNullUpper = false) :
    { l with upper := l.upper.filter (!·.isNull) } = l := by
  have hupper : l.upper.filter (!·.isNull) = l.upper := by
    cases hv : l.upper with
    | none => rfl
    | some v =>
      rw [hasNullUpper, hv, Option.any_some] at h
      rw [Option.filter_some, h]
      rfl
  rw [hupper]

/-- Of two operands one is left, and that is too few. -/
theorem validate_of_hasNullUpper (hvalid : l.validate = .ok ()) (h : l.hasNullUpper = true) :
    validate { l with upper := l.upper.filter (!·.isNull) } =
      .error (.arity l.operation l.field 1) := by
  obtain ⟨v, hv, hnull⟩ := (Option.any_eq_true _ _).1 h
  obtain ⟨hblank, hgroup, hcount⟩ := validate_eq_ok_iff.1 hvalid
  have hnone : l.upper.filter (!·.isNull) = none := by
    rw [hv, Option.filter_some, hnull]
    rfl
  rw [hnone]
  simp [validate, operandCount, hblank, hgroup, ← hcount, hv]

theorem decode_of_valid {d : Document} (hread : (d.fields? fieldNames).bind ofFields? = some l)
    (hvalid : l.validate = .ok ()) : decode d = .ok l := by
  rw [decode, hread]
  simp only [require, bind, Except.bind, hvalid]

theorem decode_of_invalid {d : Document} {e : QualifierError}
    (hread : (d.fields? fieldNames).bind ofFields? = some l) (hvalid : l.validate = .error e) :
    decode d = .error (.invalid e) := by
  rw [decode, hread]
  simp only [require, bind, Except.bind, hvalid]

/-- A leaf that is well formed is read again, unless its upper operand is null. -/
theorem decode_toValue (hvalid : l.validate = .ok ()) (h : ∀ v ∈ l.values, v.Ordered) :
    decode (.ofValue l.toValue) =
      if l.hasNullUpper then .error (.invalid (.arity l.operation l.field 1)) else .ok l := by
  have hread := ofFields?_toValue h
  cases hnull : l.hasNullUpper with
  | false =>
    rw [eq_of_not_hasNullUpper hnull] at hread
    exact decode_of_valid hread hvalid
  | true => exact decode_of_invalid hread (validate_of_hasNullUpper hvalid hnull)

/-! What is read. -/

theorem of_optional?_eq_some {d : Document} {o : Option Value}
    (h : Document.optional? Document.value? d = some o) :
    (∀ v ∈ o, v.Ordered) ∧ o.any Value.isNull = false := by
  have hsome : ∀ v : Value, d.value? = some v → d ≠ .null → v.isNull = false := by
    intro v hv hd
    cases v with
    | null =>
      cases d with
      | null => exact absurd rfl hd
      | object members =>
        obtain ⟨_, _, hnull⟩ := Option.map_eq_some_iff.1 hv
        cases hnull
      | _ => simp [Document.value?] at hv
    | _ => rfl
  by_cases hd : d = .null
  · subst hd
    cases h
    simp
  · have hread : Document.optional? Document.value? d = d.value?.map some := by
      cases d <;> simp_all [Document.optional?]
    rw [hread] at h
    obtain ⟨v, hv, rfl⟩ := Option.map_eq_some_iff.1 h
    refine ⟨?_, hsome v hv hd⟩
    intro w hw
    cases hw
    exact Document.ordered_of_value? hv

theorem of_ofFields?_eq_some {fields : List (Option Document)} (h : ofFields? fields = some l) :
    (∀ v ∈ l.values, v.Ordered) ∧ l.hasNullUpper = false := by
  unfold ofFields? at h
  split at h
  · next upper =>
    obtain ⟨field, -, h⟩ := Option.bind_eq_some_iff.1 h
    obtain ⟨operation, -, h⟩ := Option.bind_eq_some_iff.1 h
    obtain ⟨ignoreCase, -, h⟩ := Option.bind_eq_some_iff.1 h
    obtain ⟨operand, hoperand, h⟩ := Option.bind_eq_some_iff.1 h
    obtain ⟨upper', hupper, h⟩ := Option.bind_eq_some_iff.1 h
    cases h
    have hread : (∀ v ∈ upper', v.Ordered) ∧ upper'.any Value.isNull = false := by
      cases upper with
      | none =>
        cases hupper
        simp
      | some d => exact of_optional?_eq_some hupper
    refine ⟨?_, hread.2⟩
    rw [values, List.forall_mem_cons]
    refine ⟨Document.ordered_of_value? hoperand, ?_⟩
    intro v hv
    exact hread.1 v (Option.mem_toList.1 hv)
  · cases h

theorem of_decode_eq_ok {d : Document} (h : decode d = .ok l) :
    l.validate = .ok () ∧ (∀ v ∈ l.values, v.Ordered) ∧ l.hasNullUpper = false := by
  obtain ⟨l', hl', h⟩ := bind_eq_ok_iff.1 h
  obtain ⟨fields, -, hfields⟩ := Option.bind_eq_some_iff.1 (eq_some_of_require hl')
  split at h
  · next hvalid =>
    cases h
    exact ⟨hvalid, of_ofFields?_eq_some hfields⟩
  · cases h

end Leaf

namespace Qualifier

mutual
/-- The values in a tree: keys and operands. -/
def values : Qualifier → List Value
  | key v => [v]
  | leaf l => l.values
  | group _ qs => valuesOf qs

def valuesOf : List Qualifier → List Value
  | [] => []
  | q :: qs => values q ++ valuesOf qs
end

/-- What is read together with the leaves: the first null that is an upper operand is the error. -/
def readWithLeaves {α : Type} (ls : List Leaf) (a : α) : Except DecodeError α :=
  match ls.find? Leaf.hasNullUpper with
  | none => .ok a
  | some l => .error (.invalid (.arity l.operation l.field 1))

theorem readWithLeaves_map {α β : Type} (ls : List Leaf) (a : α) (f : α → β) :
    (readWithLeaves ls a).map f = readWithLeaves ls (f a) := by
  unfold readWithLeaves
  cases ls.find? Leaf.hasNullUpper <;> rfl

theorem readWithLeaves_bind {α β γ : Type} (ls ls' : List Leaf) (a : α) (b : β) (f : α → β → γ) :
    (do
      let a ← readWithLeaves ls a
      let b ← readWithLeaves ls' b
      return f a b) = readWithLeaves (ls ++ ls') (f a b) := by
  unfold readWithLeaves
  rw [List.find?_append]
  cases ls.find? Leaf.hasNullUpper with
  | some l => rfl
  | none =>
    rw [Option.none_or]
    cases ls'.find? Leaf.hasNullUpper <;> rfl

/-! A node is read by what its key names. -/

theorem decode_single {kind : String} (h : junction? kind = none) (content : Document) :
    decode .value (.object [(some kind, content)]) = decodeSingle kind content := by
  rw [decode, h]
  simp only [List.isEmpty_nil, Bool.not_true, Bool.false_eq_true, and_false, if_false, if_true]
  cases decodeSingle kind content <;> rfl

theorem decode_group (j : Junction) (items : List Document) :
    decode .value (.object [(some (junctionKey j), .array items)]) =
      (decodeItems .value items).map (group j) := by
  have hkey : junction? (junctionKey j) = some j := by cases j <;> rfl
  rw [decode, hkey]
  cases hitems : decodeItems .value items <;> simp [hitems] <;> rfl

mutual
theorem decode_toValue (q : Qualifier) (hvalid : ∀ l ∈ q.leaves, l.validate = .ok ())
    (hordered : ∀ v ∈ q.values, v.Ordered) :
    decode .value (.ofValue q.toValue) = readWithLeaves q.leaves q := by
  cases q with
  | key v =>
    have hv : v.Ordered := hordered v (by simp [values])
    rw [toValue, Document.ofValue_single, decode_single rfl]
    simp only [decodeSingle, Document.value?_ofValue hv]
    rfl
  | leaf l =>
    have hl := Leaf.decode_toValue (hvalid l (by simp [leaves])) hordered
    rw [toValue, Document.ofValue_single, decode_single rfl]
    simp only [decodeSingle, hl, leaves, readWithLeaves, List.find?_singleton]
    cases l.hasNullUpper <;> rfl
  | group j qs =>
    rw [leaves] at hvalid ⊢
    rw [values] at hordered
    have hitems := decodeItems_toValues qs hvalid hordered
    rw [toValue, Document.ofValue_single, Document.ofValue, decode_group, hitems,
      readWithLeaves_map]

theorem decodeItems_toValues (qs : List Qualifier) (hvalid : ∀ l ∈ leavesOf qs, l.validate = .ok ())
    (hordered : ∀ v ∈ valuesOf qs, v.Ordered) :
    decodeItems .value (Document.ofItems (toValues qs)) = readWithLeaves (leavesOf qs) qs := by
  cases qs with
  | nil => rfl
  | cons q qs =>
    rw [leavesOf, List.forall_mem_append] at hvalid
    rw [valuesOf, List.forall_mem_append] at hordered
    rw [toValues, Document.ofItems, decodeItems, decode_toValue q hvalid.1 hordered.1,
      decodeItems_toValues qs hvalid.2 hordered.2, leavesOf]
    exact readWithLeaves_bind _ _ _ _ _
end

theorem validate_of_mem_leaves {q : Qualifier} (h : q.validate = .ok ()) {l : Leaf}
    (hl : l ∈ q.leaves) : l.validate = .ok () := by
  have hnodes : (nodesOf [q]).findSome? fault? = none := by
    rw [nodesOf, nodesOf, List.append_nil, ← failure?_validate, h]
    rfl
  have hmem : l ∈ leavesOf [q] := by
    rw [leavesOf, leavesOf, List.append_nil]
    exact hl
  exact validate_of_mem_leavesOf hnodes hmem

/-- A qualifier without a fault is read back from its value as it was, or, if some leaf has a null
for its upper operand, refused because the first such leaf has too few operands. -/
theorem ofValue_toValue {q : Qualifier} (hvalid : q.validate = .ok ())
    (hordered : ∀ v ∈ q.values, v.Ordered) :
    ofValue q.toValue =
      match q.leaves.find? Leaf.hasNullUpper with
      | none => .ok q
      | some l => .error (.invalid (.arity l.operation l.field 1)) :=
  decode_toValue q (fun _ hl => validate_of_mem_leaves hvalid hl) hordered

/-! What is read. -/

theorem of_decode_eq_ok {source : Source} {d : Document} {q : Qualifier}
    (h : decode source d = .ok q) :
    (∃ kind content, decodeSingle kind content = .ok q) ∨
      ∃ j items qs, decodeItems source items = .ok qs ∧ q = group j qs := by
  unfold decode at h
  split at h
  · next kind content rest =>
    split at h
    · cases h
    · simp only at h
      split at h <;> obtain ⟨q', hq, h⟩ := bind_eq_ok_iff.1 h
      · split at h
        · obtain ⟨qs, hqs, rfl⟩ := map_eq_ok_iff.1 hq
          cases h
          exact .inr ⟨_, _, qs, hqs, rfl⟩
        · cases h
      · cases hq
      · split at h
        · cases h
          exact .inl ⟨_, _, hq⟩
        · cases h
  · cases h

theorem of_decodeSingle_eq_ok {kind : String} {content : Document} {q : Qualifier}
    (h : decodeSingle kind content = .ok q) :
    (∃ v : Value, v.Ordered ∧ q = key v) ∨ ∃ l, Leaf.decode content = .ok l ∧ q = leaf l := by
  unfold decodeSingle at h
  split at h
  · obtain ⟨v, hv, rfl⟩ := map_eq_ok_iff.1 h
    exact .inl ⟨v, Document.ordered_of_value? (eq_some_of_require hv), rfl⟩
  · obtain ⟨l, hl, rfl⟩ := map_eq_ok_iff.1 h
    exact .inr ⟨l, hl, rfl⟩
  · cases h

/-- What is known of trees that were read, by their leaves and their values. -/
structure Settled (leaves : List Leaf) (values : List Value) : Prop where
  valid : ∀ l ∈ leaves, l.validate = .ok ()
  upper : ∀ l ∈ leaves, l.hasNullUpper = false
  ordered : ∀ v ∈ values, v.Ordered

theorem Settled.append {ls ls' : List Leaf} {vs vs' : List Value} (h : Settled ls vs)
    (h' : Settled ls' vs') : Settled (ls ++ ls') (vs ++ vs') where
  valid := List.forall_mem_append.2 ⟨h.valid, h'.valid⟩
  upper := List.forall_mem_append.2 ⟨h.upper, h'.upper⟩
  ordered := List.forall_mem_append.2 ⟨h.ordered, h'.ordered⟩

mutual
theorem settled_of_decode {source : Source} {d : Document} (q : Qualifier)
    (h : decode source d = .ok q) : Settled q.leaves q.values := by
  rcases of_decode_eq_ok h with ⟨kind, content, hsingle⟩ | ⟨j, items, qs, hitems, hq⟩
  · rcases of_decodeSingle_eq_ok hsingle with ⟨v, hv, rfl⟩ | ⟨l, hl, rfl⟩
    · exact ⟨by simp [leaves], by simp [leaves], by simpa [values] using hv⟩
    · obtain ⟨hvalid, hordered, hupper⟩ := Leaf.of_decode_eq_ok hl
      exact ⟨by simpa [leaves] using hvalid, by simpa [leaves] using hupper, hordered⟩
  · cases q with
    | key v => cases hq
    | leaf l => cases hq
    | group j' qs' =>
      cases hq
      exact settled_of_decodeItems qs hitems

theorem settled_of_decodeItems {source : Source} {ds : List Document} (qs : List Qualifier)
    (h : decodeItems source ds = .ok qs) : Settled (leavesOf qs) (valuesOf qs) := by
  cases ds with
  | nil =>
    cases h
    exact ⟨by simp [leavesOf], by simp [leavesOf], by simp [valuesOf]⟩
  | cons d ds =>
    obtain ⟨q, hq, h⟩ := bind_eq_ok_iff.1 h
    obtain ⟨qs', hqs, h⟩ := bind_eq_ok_iff.1 h
    cases h
    exact (settled_of_decode q hq).append (settled_of_decodeItems qs' hqs)
end

/-- What has been read once is read again as it is, a group without children included. -/
theorem ofValue_toValue_of_decode {source : Source} {d : Document} {q : Qualifier}
    (h : decode source d = .ok q) : ofValue q.toValue = .ok q := by
  obtain ⟨hvalid, hupper, hordered⟩ := settled_of_decode q h
  have hfind : q.leaves.find? Leaf.hasNullUpper = none := by simpa using hupper
  rw [ofValue, decode_toValue q hvalid hordered, readWithLeaves, hfind]

/-- Nulls elsewhere are read back. -/
def nullsElsewhere : Qualifier :=
  .group .or [.key (.array [.null]), unary (.compare .equal) "tags" (.object [("a", .null)]),
    range (.compare .between) "age" .null (.bool true)]

/-- The upper bound is null. -/
def upToNull : Qualifier :=
  .group .and [nullsElsewhere, range (.compare .between) "age" (.ofInt 1) .null]

theorem ofValue_toValue_nulls : ofValue nullsElsewhere.toValue = .ok nullsElsewhere ∧
    upToNull.validate = .ok () ∧
    ofValue upToNull.toValue = .error (.invalid (.arity (.compare .between) "age" 1)) := by
  have helsewhere : ∀ v ∈ nullsElsewhere.values, v.Ordered := by
    simp [nullsElsewhere, values, valuesOf, unary, range, Leaf.values, Value.Ordered,
      Value.AllOrdered, Value.MembersOrdered, Members.Ascending]
  have hupper : ∀ v ∈ upToNull.values, v.Ordered := by
    have hlast : ∀ v ∈ [Value.ofInt 1, .null], v.Ordered := by simp [Value.ofInt, Value.Ordered]
    intro v hv
    rcases List.mem_append.1 hv with hv | hv
    · exact helsewhere v hv
    · exact hlast v hv
  exact ⟨ofValue_toValue rfl helsewhere, rfl, ofValue_toValue rfl hupper⟩

end Qualifier

end IndexPlanner

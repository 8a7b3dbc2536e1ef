import IndexPlanner.Proofs.Plan.Refusal
import IndexPlanner.Proofs.Qualifier.Written

/-! Qualifiers that have been read. However a tree was written, its leaves are well formed, and it
is written and read again in one form. What reading does not look at are groups and keys, so these
alone can make a query malformed whose trees have been read. -/
namespace IndexPlanner

open Json (Document Value)

namespace Qualifier

variable {q : Qualifier} {qs : List Qualifier} {e : QualifierError}

/-- The tree has been read, from a value or from a text. -/
def IsRead (q : Qualifier) : Prop :=
  (∃ v, ofValue v = .ok q) ∨ ∃ text, read text = .ok q

theorem IsRead.exists_decode (h : q.IsRead) : ∃ source d, decode source d = .ok q := by
  rcases h with ⟨v, hv⟩ | ⟨text, htext⟩
  · exact ⟨.value, .ofValue v, hv⟩
  · obtain ⟨r, hr, h⟩ := bind_eq_ok_iff.1 htext
    split at h
    · cases h
    · cases h
      exact ⟨.text, _, hr⟩

/-- Trees that can be read are those with well-formed leaves, none of them with a null for its upper
operand, and with the members of all their objects in order. -/
theorem isRead_iff : q.IsRead ↔
    (∀ l ∈ q.leaves, l.validate = .ok () ∧ l.hasNullUpper = false) ∧ ∀ v ∈ q.values, v.Ordered := by
  constructor
  · intro h
    obtain ⟨source, d, hd⟩ := h.exists_decode
    obtain ⟨hvalid, hupper, hordered⟩ := settled_of_decode q hd
    exact ⟨fun l hl => ⟨hvalid l hl, hupper l hl⟩, hordered⟩
  · rintro ⟨hleaves, hordered⟩
    have hfind : q.leaves.find? Leaf.hasNullUpper = none := by
      simpa using fun l hl => (hleaves l hl).2
    have hread := decode_toValue q (fun l hl => (hleaves l hl).1) hordered
    rw [readWithLeaves, hfind] at hread
    exact .inl ⟨q.toValue, hread⟩

theorem IsRead.validate (h : q.IsRead) : ∀ l ∈ q.leaves, l.validate = .ok () :=
  fun l hl => ((isRead_iff.1 h).1 l hl).1

theorem IsRead.eq_ok_of_toValue (h : q.IsRead) : ofValue q.toValue = .ok q := by
  obtain ⟨source, d, hd⟩ := h.exists_decode
  exact ofValue_toValue_of_decode hd

/-! What is left that can be wrong with a tree. -/

/-- A node that no leaf is to blame for: a key that is null, or a group without children. -/
inductive Hollow : Qualifier → QualifierError → Prop
  | key : Hollow (key .null) .nullKey
  | group (j : Junction) : Hollow (group j []) (.emptyGroup j)

theorem fault?_eq_some_iff (h : ∀ l, q = leaf l → l.validate = .ok ()) :
    q.fault? = some e ↔ Hollow q e := by
  constructor
  · intro hfault
    cases q with
    | key v =>
      cases v with
      | null =>
        cases hfault
        exact .key
      | _ => cases hfault
    | leaf l =>
      rw [fault?, h l rfl] at hfault
      cases hfault
    | group j qs =>
      cases qs with
      | nil =>
        cases hfault
        exact .group j
      | cons => cases hfault
  · rintro (_ | _)
    · rfl
    · rfl

/-- Among nodes whose leaves are well formed the first faulty one is hollow. -/
theorem findSome?_fault?_eq_some_iff {ns : List Qualifier}
    (h : ∀ l, leaf l ∈ ns → l.validate = .ok ()) :
    ns.findSome? fault? = some e ↔
      ∃ before n after, ns = before ++ n :: after ∧ Hollow n e ∧
        ∀ m ∈ before, ∀ e', ¬ Hollow m e' := by
  have hnode : ∀ m ∈ ns, ∀ e, m.fault? = some e ↔ Hollow m e := by
    rintro m hm e
    apply fault?_eq_some_iff
    rintro l rfl
    exact h l hm
  rw [List.findSome?_eq_some_iff]
  constructor
  · rintro ⟨before, n, after, rfl, hn, hbefore⟩
    refine ⟨before, n, after, rfl, (hnode n (by simp) e).1 hn, ?_⟩
    intro m hm e' hhollow
    rw [← hnode m (by simp [hm]), hbefore m hm] at hhollow
    cases hhollow
  · rintro ⟨before, n, after, rfl, hn, hbefore⟩
    refine ⟨before, n, after, rfl, (hnode n (by simp) e).2 hn, ?_⟩
    intro m hm
    rw [Option.eq_none_iff_forall_ne_some]
    intro e' hfault
    exact hbefore m hm e' ((hnode m (by simp [hm]) e').1 hfault)

theorem validate_of_isRead (h : ∀ q ∈ qs, q.IsRead) {l : Leaf} (hl : l ∈ leavesOf qs) :
    l.validate = .ok () := by
  rw [leavesOf_eq_flatMap, List.mem_flatMap] at hl
  obtain ⟨q, hq, hl⟩ := hl
  exact (h q hq).validate l hl

/-- Reading settles the form of a tree: its leaves are well formed, and it is written in a form that
is read as the same tree and so written in the same form again. A query of such trees is malformed
if and only if some node is a null key or a group without children, and the first such node is the
error. -/
theorem canonical_of_isRead (h : ∀ q ∈ qs, q.IsRead) :
    (∀ q ∈ qs, (∀ l ∈ q.leaves, l.validate = .ok ()) ∧ ofValue q.toValue = .ok q ∧
      (ofValue q.toValue).map toValue = .ok q.toValue) ∧
    ∀ s scope filter e, Plan.compile s scope filter qs = .error (.malformed e) ↔
      ∃ before n after, nodesOf qs = before ++ n :: after ∧ Hollow n e ∧
        ∀ m ∈ before, ∀ e', ¬ Hollow m e' := by
  constructor
  · intro q hq
    have hback := (h q hq).eq_ok_of_toValue
    refine ⟨(h q hq).validate, hback, ?_⟩
    rw [hback]
    rfl
  · intro s scope filter e
    rw [Plan.compile_eq_malformed_iff, findSome?_fault?_eq_some_iff]
    intro l hl
    exact validate_of_isRead h ((mem_leavesOf_iff qs).2 hl)

/-! A tree in a form that is not its own, with an OR that has lost its children. -/

/-- A range as an array, its operation the key of a null, and a leaf as an object with a member that
belongs to no field and an upper operand that is null. -/
def loosely : Value :=
  .object [("and", .array [
    .object [("field", .array [.string "age", .object [("BETWEEN", .null)], .bool false, .ofInt 1,
      .ofInt 9])],
    .object [("field", .object [("field", .string "name"), ("note", .string "first"),
      ("operation", .string "EQ"), ("value", .string "Ann"), ("value2", .null)])],
    .object [("or", .array [])]])]

/-- The same tree. -/
def strictly : Qualifier :=
  .group .and [range (.compare .between) "age" (.ofInt 1) (.ofInt 9),
    unary (.compare .equal) "name" (.string "Ann"), .group .or []]

theorem canonical_of_isRead_loosely :
    ofValue loosely = .ok strictly ∧ ofValue strictly.toValue = .ok strictly ∧
    (ofValue strictly.toValue).map toValue = .ok strictly.toValue ∧
    Plan.compile .empty ⟨"test", none⟩ none [strictly] =
      .error (.malformed (.emptyGroup .or)) := by
  have hread : ofValue loosely = .ok strictly := rfl
  have hall : ∀ q ∈ [strictly], q.IsRead := by
    simpa using .inl ⟨loosely, hread⟩
  obtain ⟨hforms, hcompile⟩ := canonical_of_isRead hall
  obtain ⟨_, hback, hform⟩ := hforms strictly (by simp)
  have hbefore : ∀ m ∈ [strictly, range (.compare .between) "age" (.ofInt 1) (.ofInt 9),
      unary (.compare .equal) "name" (.string "Ann")], ∀ e, ¬ Hollow m e := by
    simp only [List.forall_mem_cons]
    exact ⟨nofun, nofun, nofun, by simp⟩
  exact ⟨hread, hback, hform, (hcompile _ _ _ _).2 ⟨_, _, [], rfl, .group .or, hbefore⟩⟩

end Qualifier

end IndexPlanner

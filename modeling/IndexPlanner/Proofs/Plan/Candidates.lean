import IndexPlanner.Proofs.Index.Coverage
import IndexPlanner.Proofs.Plan.Answer

/-! Which leaf of a query is pushed. The candidates are listed in the order of the query, and the
first of them that an index answers is taken. -/
namespace IndexPlanner

/-- The leaf that a qualifier is. -/
def Qualifier.leaf? : Qualifier → Option Leaf
  | leaf l => some l
  | _ => none

namespace Pushdown

/-- What a qualifier at the top offers: itself if it is a leaf, and an AND the leaves among its
children. -/
def candidatesOf : Qualifier → List Leaf
  | .leaf l => [l]
  | .group .and qs => qs.filterMap Qualifier.leaf?
  | _ => []

/-- The leaves that may be pushed, in their order. -/
def candidates (qs : List Qualifier) : List Leaf := qs.flatMap candidatesOf

/-- An index can be asked for the leaf: a filter is made of it, and some index of the list covers
its bin, in the set of the scope or in the whole namespace. -/
structure Eligible (indexes : List Index) (scope : Scope) (l : Leaf) (f : IndexFilter) : Prop where
  filter : IndexFilter.ofLeaf? l = some f
  covered : ∃ i ∈ indexes,
    i.space = scope.space ∧ i.bin = l.field ∧ (i.set = scope.set ∨ i.set = none)

variable {s : Snapshot} {scope : Scope} {qs : List Qualifier} {l : Leaf} {f : IndexFilter}
variable {indexes : List Index}

theorem filter?_ofList_eq_some_iff :
    filter? (.ofList indexes) scope l = some f ↔ Eligible indexes scope l f := by
  simp only [filter?, Option.filter_eq_some_iff, Snapshot.hasIndexFor_ofList_iff, Index.covers_iff]
  constructor
  · rintro ⟨hf, hcovered⟩
    exact ⟨hf, hcovered⟩
  · rintro ⟨hf, hcovered⟩
    exact ⟨hf, hcovered⟩

theorem filter?_ofList_eq_none_iff :
    filter? (.ofList indexes) scope l = none ↔ ∀ f, ¬ Eligible indexes scope l f := by
  simp only [Option.eq_none_iff_forall_ne_some, ne_eq, filter?_ofList_eq_some_iff]

theorem filter?_eq_some_iff : filter? s scope l = some f ↔ Eligible s.indexes scope l f := by
  rw [← filter?_ofList_eq_some_iff, Snapshot.ofList_indexes]

theorem filter?_eq_none_iff : filter? s scope l = none ↔ ∀ f, ¬ Eligible s.indexes scope l f := by
  rw [← filter?_ofList_eq_none_iff, Snapshot.ofList_indexes]

/-! The search takes the first candidate that has a filter. -/

/-- The leaf and its filter. -/
def chosen (p : Pushdown) : Leaf × IndexFilter := (p.leaf, p.filter)

/-- The leaf with its filter, if an index answers it. -/
def choose? (s : Snapshot) (scope : Scope) (l : Leaf) : Option (Leaf × IndexFilter) :=
  (filter? s scope l).map (l, ·)

@[simp] theorem map_chosen_after (q : Qualifier) (o : Option Pushdown) :
    (o.map (after q)).map chosen = o.map chosen := by
  cases o <;> rfl

theorem ofChildren?_chosen (qs : List Qualifier) : (ofChildren? s scope qs).map chosen =
    (qs.filterMap Qualifier.leaf?).findSome? (choose? s scope) := by
  induction qs with
  | nil => rfl
  | cons q qs ih =>
    cases q with
    | leaf l =>
      have hl : (Qualifier.leaf l).leaf? = some l := rfl
      rw [ofChildren?, List.filterMap_cons_some hl, List.findSome?_cons, ← ih, choose?]
      cases filter? s scope l with
      | some f => rfl
      | none => exact map_chosen_after _ _
    | _ => exact (map_chosen_after _ _).trans ih

theorem ofQualifier?_chosen (q : Qualifier) :
    (ofQualifier? s scope q).map chosen = (candidatesOf q).findSome? (choose? s scope) := by
  cases q with
  | key v => rfl
  | leaf l =>
    rw [ofQualifier?, candidatesOf, List.findSome?_singleton, choose?, Option.map_map]
    rfl
  | group j qs =>
    cases j with
    | and =>
      rw [ofQualifier?, candidatesOf, ← ofChildren?_chosen, Option.map_map]
      rfl
    | or => rfl

theorem find?_chosen (qs : List Qualifier) :
    (find? s scope qs).map chosen = (candidates qs).findSome? (choose? s scope) := by
  induction qs with
  | nil => rfl
  | cons q qs ih =>
    have hq := @ofQualifier?_chosen s scope q
    rw [find?, candidates, List.flatMap_cons, List.findSome?_append, ← hq]
    cases ofQualifier? s scope q with
    | some p => rfl
    | none => exact (map_chosen_after q _).trans ih

/-- The candidates before the one that is taken have no filter. -/
theorem exists_before_of_find? {p : Pushdown} (h : find? s scope qs = some p) :
    ∃ before after, candidates qs = before ++ p.leaf :: after ∧
      ∀ l ∈ before, filter? s scope l = none := by
  have hfirst : (candidates qs).findSome? (choose? s scope) = some (chosen p) := by
    rw [← find?_chosen, h, Option.map_some]
  obtain ⟨before, l, after, hqs, hl, hbefore⟩ := List.findSome?_eq_some_iff.1 hfirst
  obtain ⟨f, _, heq⟩ := Option.map_eq_some_iff.1 hl
  have hleaf : l = p.leaf := congrArg Prod.fst heq
  subst hleaf
  exact ⟨before, after, hqs, fun l hl => Option.map_eq_none_iff.1 (hbefore l hl)⟩

theorem find?_eq_none_iff :
    find? s scope qs = none ↔ ∀ l ∈ candidates qs, filter? s scope l = none := by
  rw [← Option.map_eq_none_iff, find?_chosen, List.findSome?_eq_none_iff]
  simp only [choose?, Option.map_eq_none_iff]

end Pushdown

namespace Plan

open Pushdown (Eligible Cut candidates)

variable {indexes : List Index} {s : Snapshot} {scope : Scope} {filter : Option IndexFilter}
variable {qs : List Qualifier} {st : Statement}

theorem outline_of_find?_eq_some {p : Pushdown} (h : Pushdown.find? s scope qs = some p) :
    outline s scope none qs =
      { scope, filter := p.filter, pushed := p.leaf, residual := p.residual } := by
  simp only [outline, h]

theorem outline_of_find?_eq_none (h : Pushdown.find? s scope qs = none) :
    outline s scope none qs = { scope, residual := qs } := by
  simp only [outline, h]

/-- A scan has no filter when the caller gives none and no candidate has an index. -/
theorem filter_eq_none_iff (h : compile s scope filter qs = .ok (.scan st)) :
    st.filter = none ↔
      filter = none ∧ ∀ l ∈ candidates qs, ∀ f, ¬ Eligible s.indexes scope l f := by
  obtain ⟨_, o, _, rfl⟩ := compile_eq_scan_iff.1 h
  simp only [← Pushdown.filter?_eq_none_iff, ← Pushdown.find?_eq_none_iff]
  cases filter with
  | some f => simp [outline]
  | none =>
    cases hfind : Pushdown.find? s scope qs with
    | some p => simp [outline_of_find?_eq_some hfind]
    | none => simp [outline_of_find?_eq_none hfind]

/-- The first candidate that an index of the list answers is pushed, and its filter is that of the
scan; a member of the query is taken out, or a child of an AND that is a member, and nothing else
is touched. Without such a candidate there is no filter. A filter of the caller's is kept, and then
nothing is pushed. -/
theorem pushed_of_compile (h : compile (.ofList indexes) scope filter qs = .ok (.scan st)) :
    (∀ f, filter = some f → st.pushed = none ∧ st.filter = some f ∧ st.residual = qs) ∧
    (filter = none →
      (∃ before c after f, candidates qs = before ++ c :: after ∧
        (∀ l ∈ before, ∀ g, ¬ Eligible indexes scope l g) ∧ Eligible indexes scope c f ∧
        st.pushed = some c ∧ st.filter = some f ∧ Cut c qs st.residual) ∨
      ((∀ l ∈ candidates qs, ∀ g, ¬ Eligible indexes scope l g) ∧
        st.pushed = none ∧ st.filter = none ∧ st.residual = qs)) := by
  obtain ⟨_, o, _, hst⟩ := compile_eq_scan_iff.1 h
  constructor
  · rintro f rfl
    subst hst
    exact ⟨rfl, rfl, rfl⟩
  · rintro rfl
    cases hfind : Pushdown.find? (.ofList indexes) scope qs with
    | some p =>
      rw [outline_of_find?_eq_some hfind] at hst
      obtain ⟨hf, hcut⟩ := Pushdown.find?_cut hfind
      obtain ⟨before, after, hqs, hbefore⟩ := Pushdown.exists_before_of_find? hfind
      have hnone : ∀ l ∈ before, ∀ g, ¬ Eligible indexes scope l g := fun l hl =>
        Pushdown.filter?_ofList_eq_none_iff.1 (hbefore l hl)
      subst hst
      exact .inl ⟨before, p.leaf, after, p.filter, hqs, hnone,
        Pushdown.filter?_ofList_eq_some_iff.1 hf, rfl, rfl, hcut⟩
    | none =>
      rw [outline_of_find?_eq_none hfind] at hst
      have hnone : ∀ l ∈ candidates qs, ∀ g, ¬ Eligible indexes scope l g := fun l hl =>
        Pushdown.filter?_ofList_eq_none_iff.1 (Pushdown.find?_eq_none_iff.1 hfind l hl)
      subst hst
      exact .inr ⟨hnone, rfl, rfl, rfl⟩

/-! A query for people called Ann, adult and near the origin. The name is compared without regard to
case, and no index knows the place. -/

/-- Two indexes on the age, the later of which has the key of the earlier, and one on the name. -/
def folk : List Index :=
  [⟨"names", "test", some "people", "name", some .string, some .plain⟩,
    ⟨"ages", "test", none, "age", some .numeric, some .plain⟩,
    ⟨"more ages", "test", none, "age", some .numeric, some .list⟩]

/-- A leaf on the name. -/
def ann : Leaf :=
  { field := "name", operation := .compare .equal, ignoreCase := true, operand := .string "Ann" }

/-- The qualifiers; the last of them has an index of its own. -/
def grownAnns : List Qualifier :=
  [.leaf ann, .group .or [.leaf adult, .leaf near],
    .group .and [.leaf near, .group .and [.leaf adult], .leaf adult],
    .leaf { ann with ignoreCase := false }]

/-- The leaf on the name and the one on the place are passed over, and those under an OR and under
two ANDs are not looked at. -/
theorem pushed_of_compile_adult :
    ∃ st before after f, compile (.ofList folk) ⟨"test", some "people"⟩ none grownAnns =
        .ok (.scan st) ∧
      candidates grownAnns = before ++ adult :: after ∧
      (∀ l ∈ before, ∀ g, ¬ Eligible folk ⟨"test", some "people"⟩ l g) ∧
      st.pushed = some adult ∧ st.filter = some f ∧ Cut adult grownAnns st.residual := by
  have h : ∃ st, compile (.ofList folk) ⟨"test", some "people"⟩ none grownAnns =
      .ok (.scan st) ∧ st.pushed = some adult := ⟨_, rfl, rfl⟩
  obtain ⟨st, hst, hadult⟩ := h
  rcases (pushed_of_compile hst).2 rfl with
    ⟨before, c, after, f, hqs, hbefore, _, hpushed, hfilter, hcut⟩ | ⟨_, hpushed, _⟩
  · rw [hadult, Option.some.injEq] at hpushed
    subst hpushed
    exact ⟨st, before, after, f, hst, hqs, hbefore, hadult, hfilter, hcut⟩
  · rw [hadult] at hpushed
    cases hpushed

end Plan

end IndexPlanner

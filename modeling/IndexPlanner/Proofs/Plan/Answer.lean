import IndexPlanner.Proofs.Plan.Cut

/-! Which records pass a planned query of the store: those that satisfy the qualifiers, less the
ones that the filter of the pushed leaf overlooks. -/
namespace IndexPlanner

open Json (Members)
open Qualifier (leavesOf)

namespace Statement

/-- A record passes when the filter lets it through and the predicate accepts it. -/
def passes (st : Statement) (bins : Members) : Bool :=
  st.filter.all (·.accepts bins) && st.accepts bins

/-- The pushed leaf overlooks the record. -/
def Overlooks (st : Statement) (bins : Members) : Prop :=
  ∃ l, st.pushed = some l ∧ l.Overlooks bins

/-- What an outline makes of the qualifiers: it leaves them all over, or cuts a leaf with a
filter. -/
inductive Outlines (s : Snapshot) (scope : Scope) (qs : List Qualifier) (st : Statement) : Prop
  | whole (hpushed : st.pushed = none) (hfilter : st.filter = none) (hresidual : st.residual = qs)
  | cut {l : Leaf} {f : IndexFilter} (hpushed : st.pushed = some l) (hfilter : st.filter = some f)
      (hf : Pushdown.filter? s scope l = some f) (hcut : Pushdown.Cut l qs st.residual)

variable {s : Snapshot} {scope : Scope} {qs : List Qualifier} {st : Statement}

/-- A property of all qualifiers is one of what is left over, when an AND with children has it just
when they have it. -/
theorem Outlines.forall_mem_residual {P : Qualifier → Prop}
    (hand : ∀ qs, qs ≠ [] → (P (.group .and qs) ↔ ∀ q ∈ qs, P q))
    (h : st.Outlines s scope qs) (hqs : ∀ q ∈ qs, P q) : ∀ q ∈ st.residual, P q := by
  cases h with
  | whole _ _ hresidual => rwa [hresidual]
  | cut _ _ _ hcut => exact ((hcut.forall_iff hand).2 hqs).2

end Statement

namespace Plan

variable {s : Snapshot} {scope : Scope} {qs : List Qualifier} {st : Statement}

theorem outlines_outline (s : Snapshot) (scope : Scope) (qs : List Qualifier) :
    (outline s scope none qs).Outlines s scope qs := by
  unfold outline
  cases h : Pushdown.find? s scope qs with
  | none => exact .whole rfl rfl rfl
  | some p =>
    obtain ⟨hf, hcut⟩ := Pushdown.find?_cut h
    exact .cut rfl rfl hf hcut

/-- What is known of a scan that was compiled without a filter of the caller's. -/
theorem outlines_of_compile (h : compile s scope none qs = .ok (.scan st)) :
    Predicate.conjunction st.residual = .ok st.predicate ∧ st.Outlines s scope qs := by
  obtain ⟨_, o, ho, rfl⟩ := compile_eq_scan_iff.1 h
  refine ⟨ho, ?_⟩
  cases outlines_outline s scope qs with
  | whole hpushed hfilter hresidual => exact .whole hpushed hfilter hresidual
  | cut hpushed hfilter hf hcut => exact .cut hpushed hfilter hf hcut

theorem exists_translates_of_filter? {l : Leaf} {f : IndexFilter}
    (h : Pushdown.filter? s scope l = some f) :
    ∃ p, Predicate.ofLeaf l = .ok p ∧ IndexFilter.Translates l f p :=
  IndexFilter.exists_translates (Option.filter_eq_some_iff.1 h).1

theorem compiles_of_filter? {l : Leaf} {f : IndexFilter}
    (h : Pushdown.filter? s scope l = some f) : (Qualifier.leaf l).Compiles := by
  obtain ⟨p, hp, _⟩ := exists_translates_of_filter? h
  exact ⟨p, by rw [Predicate.ofQualifier, hp]⟩

theorem compiles_residual_iff (h : st.Outlines s scope qs) :
    (∀ q ∈ st.residual, q.Compiles) ↔ ∀ q ∈ qs, q.Compiles := by
  cases h with
  | whole _ _ hresidual => rw [hresidual]
  | cut _ _ hf hcut => rw [← hcut.compiles_iff, and_iff_right (compiles_of_filter? hf)]

/-- All qualifiers of a scan have predicates, the pushed leaf among them. -/
theorem compiles_of_compile (h : compile s scope none qs = .ok (.scan st)) :
    ∀ q ∈ qs, q.Compiles := by
  obtain ⟨hpred, ho⟩ := outlines_of_compile h
  rw [← compiles_residual_iff ho, ← Qualifier.conjunction_isOk_iff]
  exact ⟨st.predicate, hpred⟩

theorem accepts_iff_of_compile (h : compile s scope none qs = .ok (.scan st)) (bins : Members) :
    st.accepts bins = true ↔ ∀ q ∈ st.residual, q.Holds bins := by
  obtain ⟨hpred, _⟩ := outlines_of_compile h
  exact Qualifier.conjunction_accepts_iff hpred bins

/-- A query that an index answers is cut at one leaf. The leaves that are left are the leaves of
the query without that one, each in its place; and the leaf and the rest together say what the
query says. -/
theorem cut_of_compile {l : Leaf} (h : compile s scope none qs = .ok (.scan st))
    (hl : st.pushed = some l) :
    Pushdown.Cut l qs st.residual ∧
      (∃ before after, leavesOf qs = before ++ l :: after ∧
        leavesOf st.residual = before ++ after) ∧
      (Qualifier.leaf l).Compiles ∧ (∀ q ∈ qs, q.Compiles) ∧
      ∀ bins, ((Qualifier.leaf l).Holds bins ∧ st.accepts bins = true) ↔
        ∀ q ∈ qs, q.Holds bins := by
  obtain ⟨_, ho⟩ := outlines_of_compile h
  cases ho with
  | whole hpushed => simp [hpushed] at hl
  | cut hpushed _ hf hcut =>
    rw [hl, Option.some.injEq] at hpushed
    subst hpushed
    refine ⟨hcut, hcut.leavesOf_eq, compiles_of_filter? hf, compiles_of_compile h, ?_⟩
    intro bins
    rw [accepts_iff_of_compile h, hcut.holds_iff]

/-! A query for adults near the origin, with an index on the bin of the age. -/

/-- The leaf `age > 28`. -/
def adult : Leaf := { field := "age", operation := .compare .greater, operand := .ofInt 28 }

/-- A leaf on the points around the origin. -/
def near : Leaf :=
  { field := "home", operation := .geoWithin,
    operand := .ofMembers [("type", .string "AeroCircle"),
      ("coordinates", .array [.array [.ofInt 0, .ofInt 0], .ofInt 1])] }

/-- One index, on the bin of the age. -/
def ages : Snapshot := .ofList [⟨"ages", "test", none, "age", some .numeric, some .plain⟩]

/-- Of two equal leaves one is cut; the AND around them closes up. -/
theorem cut_of_compile_adult :
    ∃ st, compile ages ⟨"test", none⟩ none
        [.group .or [.leaf adult], .group .and [.leaf near, .leaf adult, .leaf adult]] =
          .ok (.scan st) ∧
      st.pushed = some adult ∧
      Pushdown.Cut adult
        [.group .or [.leaf adult], .group .and [.leaf near, .leaf adult, .leaf adult]]
        st.residual ∧
      st.residual = [.group .or [.leaf adult], .group .and [.leaf near, .leaf adult]] :=
  ⟨_, rfl, rfl, (@cut_of_compile ages ⟨"test", none⟩ _ _ adult rfl rfl).1, rfl⟩

/-! What the filter adds. -/

theorem passes_iff_of_compile (h : compile s scope none qs = .ok (.scan st))
    (hgeo : ∀ l ∈ leavesOf qs, l.operation = .geoWithin → l.OperandReadsBack) (bins : Members) :
    st.passes bins = true ↔ (∀ q ∈ qs, q.Holds bins) ∧ ¬ st.Overlooks bins := by
  obtain ⟨_, ho⟩ := outlines_of_compile h
  rw [Statement.passes, Bool.and_eq_true, accepts_iff_of_compile h]
  cases ho with
  | whole hpushed hfilter hresidual =>
    have hover : ¬ st.Overlooks bins := by
      rintro ⟨l, hl, _⟩
      simp [hpushed] at hl
    rw [hfilter, hresidual, and_iff_left hover, Option.all_none, and_iff_right rfl]
  | @cut l f hpushed hfilter hf hcut =>
    have hover : st.Overlooks bins ↔ l.Overlooks bins := by
      simp [Statement.Overlooks, hpushed]
    obtain ⟨p, hp, htrans⟩ := exists_translates_of_filter? hf
    rw [hfilter, Option.all_some, htrans.accepts_iff (hgeo l hcut.mem_leavesOf), hover,
      ← hcut.holds_iff, Qualifier.holds_iff (q := .leaf l) (by rw [Predicate.ofQualifier, hp])]
    exact and_right_comm

end Plan

end IndexPlanner

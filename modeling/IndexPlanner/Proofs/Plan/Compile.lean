import IndexPlanner.Plan.Compile
import IndexPlanner.Proofs.Qualifier.Meaning

/-! When a query becomes a query of the store. The checks before that do not depend on the known
indexes; only the outline does. -/
namespace IndexPlanner.Plan

/-- The checks that stand before a query of the store: well-formed qualifiers, none of them on the
key, and something to ask for. -/
structure Scannable (filter : Option IndexFilter) (qs : List Qualifier) : Prop where
  valid : Qualifier.validateAll qs = .ok ()
  keyless : Qualifier.anyContainsKey qs = false
  nonempty : (qs.isEmpty && filter.isNone) = false

variable {s : Snapshot} {scope : Scope} {filter : Option IndexFilter} {qs : List Qualifier}

theorem Scannable.ne_key (h : Scannable filter qs) (v : Json.Value) : qs ≠ [.key v] := by
  rintro rfl
  have hkey := h.keyless
  simp [Qualifier.anyContainsKey, Qualifier.containsKey] at hkey

theorem compileScan_eq_scan_iff {st : Statement} :
    compileScan s scope filter qs = .ok (.scan st) ↔
      ∃ o, Predicate.conjunction (outline s scope filter qs).residual = .ok o ∧
        st = { outline s scope filter qs with predicate := o } := by
  rw [compileScan, bind_eq_ok_iff]
  constructor
  · rintro ⟨o, ho, h⟩
    cases h
    exact ⟨o, ho, rfl⟩
  · rintro ⟨o, ho, rfl⟩
    exact ⟨o, ho, rfl⟩

/-- A scan comes from a query that passes the checks and whose residual has a predicate. -/
theorem compile_eq_scan_iff {st : Statement} :
    compile s scope filter qs = .ok (.scan st) ↔
      Scannable filter qs ∧
        ∃ o, Predicate.conjunction (outline s scope filter qs).residual = .ok o ∧
          st = { outline s scope filter qs with predicate := o } := by
  rw [← compileScan_eq_scan_iff]
  constructor
  · intro h
    unfold compile at h
    split at h
    · cases h
    · next hvalid =>
      split at h
      · cases h
      · split at h
        · cases h
        · next hkey =>
          split at h
          · cases h
          · next hempty =>
            exact ⟨⟨hvalid, Bool.eq_false_iff.2 hkey, Bool.eq_false_iff.2 hempty⟩, h⟩
  · rintro ⟨hscan, h⟩
    -- A condition on the key standing alone would have been a plan by itself.
    have hlist := hscan.ne_key
    obtain ⟨hvalid, hkey, hempty⟩ := hscan
    have hscan : compile s scope filter qs = if Qualifier.anyContainsKey qs then .error .keyNotAlone
        else if qs.isEmpty && filter.isNone then .error (.emptyStatement scope)
        else compileScan s scope filter qs := by
      unfold compile
      simp only [hvalid]
    rw [hscan, hkey, hempty]
    exact h

theorem scope_outline (s : Snapshot) (scope : Scope) (filter : Option IndexFilter)
    (qs : List Qualifier) : (outline s scope filter qs).scope = scope := by
  unfold outline
  cases filter with
  | some f => rfl
  | none => cases Pushdown.find? s scope qs <;> rfl

theorem scope_of_compile {st : Statement} (h : compile s scope filter qs = .ok (.scan st)) :
    st.scope = scope := by
  obtain ⟨_, o, _, rfl⟩ := compile_eq_scan_iff.1 h
  exact scope_outline s scope filter qs

/-- A fetch comes from a condition on the key that stands alone. -/
theorem exists_key_of_compile {k : Key} (h : compile s scope filter qs = .ok (.lookup k)) :
    ∃ v, qs = [.key v] ∧ k = ⟨scope.space, scope.set, v⟩ := by
  unfold compile at h
  split at h
  · cases h
  · split at h
    · next v _ =>
      cases h
      exact ⟨v, rfl, rfl⟩
    · split at h
      · cases h
      · split at h
        · cases h
        · rw [compileScan, bind_eq_ok_iff] at h
          obtain ⟨o, _, h⟩ := h
          cases h

end IndexPlanner.Plan

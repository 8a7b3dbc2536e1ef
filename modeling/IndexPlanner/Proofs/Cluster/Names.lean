import IndexPlanner.Proofs.Cluster.Run

/-! Which indexes are known by name after indexes have been created and dropped. The cluster tells
indexes apart by name, a snapshot by key; so an index is not known when an earlier one has its
key. -/
namespace IndexPlanner

theorem Snapshot.containsName_ofList_iff {l : List Index} {space name : String} :
    (ofList l).containsName space name = true ↔ ∃ before i after, l = before ++ i :: after ∧
      i.space = space ∧ i.name = name ∧ ∀ j ∈ before, j.key ≠ i.key := by
  simp only [containsName, List.any_eq_true, Bool.and_eq_true, beq_iff_eq, mem_ofList_iff,
    List.find?_eq_some_iff_append, Bool.not_eq_true', beq_eq_false_iff_ne]
  constructor
  · rintro ⟨i, ⟨_, before, after, hl, hbefore⟩, hspace, hname⟩
    exact ⟨before, i, after, hl, hspace, hname, hbefore⟩
  · rintro ⟨before, i, after, hl, hspace, hname, hbefore⟩
    exact ⟨i, ⟨trivial, before, after, hl, hbefore⟩, hspace, hname⟩

/-- The call creates or drops an index, and the nodes are asked after that, each once. -/
def ClusterCall.DefinesOn (nodes : List String) : ClusterCall → Prop
  | create _ order => order.Perm nodes
  | dropIndex _ _ order => order.Perm nodes
  | _ => False

instance (nodes : List String) : DecidablePred (ClusterCall.DefinesOn nodes)
  | .create _ order => inferInstanceAs (Decidable (order.Perm nodes))
  | .dropIndex _ _ order => inferInstanceAs (Decidable (order.Perm nodes))
  | .refresh _ => .isFalse id
  | .add _ => .isFalse id
  | .setDown .. => .isFalse id

namespace ManagedCluster

variable {m : ManagedCluster} {call : ClusterCall} {nodes : List String}

theorem down_of_effect {c : MemoryCluster} (hcall : call.DefinesOn nodes)
    (h : call.effect m.cluster = .ok c) : c.down = m.cluster.down := by
  cases call with
  | create spec order =>
    obtain ⟨rfl, _⟩ := MemoryCluster.eq_add_of_create h
    rfl
  | dropIndex scope name order =>
    simp only [ClusterCall.effect, MemoryCluster.dropIndex] at h
    split at h
    · cases h
      rfl
    · cases h
  | _ => exact hcall.elim

/-- Creating and dropping indexes does not bring a node down. -/
theorem down_run {calls : List ClusterCall} (hm : ∀ i ∈ m.cluster.indexes, i.IsDescribable)
    (hcalls : ∀ call ∈ calls, call.DefinesOn nodes ∧ call.IsDescribable) :
    (m.run calls).cluster.down = m.cluster.down := by
  induction calls generalizing m with
  | nil => rfl
  | cons call calls ih =>
    obtain ⟨⟨hdef, hdesc⟩, hrest⟩ := List.forall_mem_cons.1 hcalls
    have hfollows := follows_step hm hdesc
    have hdown : (m.step call).state.cluster.down = m.cluster.down := by
      cases heffect : call.effect m.cluster with
      | error e => rw [hfollows.refused e heffect]
      | ok c => rw [(hfollows.accepted c heffect).1, down_of_effect hdef heffect]
    exact (ih (describable_step hm hdesc) hrest).trans hdown

/-- An accepted creation reaches a node that is up, and what is known follows. -/
theorem published_of_create {spec : IndexSpec} {order : List String} {c : MemoryCluster}
    (hm : ∀ i ∈ m.cluster.indexes, i.IsDescribable) (hspec : spec.toIndex.IsDescribable)
    (hup : ∃ node ∈ order, node ∉ m.cluster.down) (h : m.cluster.create spec = .ok c) :
    ∃ node n, (m.step (.create spec order)).outcome = some (.ok (.published node n)) := by
  have hdown : c.down = m.cluster.down := by
    rw [(MemoryCluster.eq_add_of_create h).1]
    rfl
  have hcall : (ClusterCall.create spec order).IsDescribable := hspec
  have hdesc : ∀ i ∈ c.indexes, i.IsDescribable := describable_effect hm hcall h
  have hstep : m.step (.create spec order) = (m.change (.ok c) order).reply := by
    rw [← h]
    rfl
  rw [hstep]
  rcases reply_change hdesc order with ⟨hall, _⟩ | ⟨node, asked, hreply⟩
  · obtain ⟨node, hnode, hnodeup⟩ := hup
    exact absurd (hdown ▸ hall node hnode) hnodeup
  · exact ⟨node, _, by rw [hreply]⟩

/-- The last index of a list is the first of its name. -/
theorem exists_first_append_iff {l : List Index} {i : Index}
    (hnew : ∀ j ∈ l, ¬ (j.space = i.space ∧ j.name = i.name)) :
    (∃ before j after, l ++ [i] = before ++ j :: after ∧ j.space = i.space ∧ j.name = i.name ∧
      ∀ k ∈ before, k.key ≠ j.key) ↔ ∀ k ∈ l, k.key ≠ i.key := by
  constructor
  · rintro ⟨before, j, after, hsplit, hspace, hname, hfirst⟩
    rcases List.eq_nil_or_concat after with rfl | ⟨after, k, rfl⟩
    · obtain ⟨rfl, hj⟩ := List.append_inj' hsplit rfl
      cases hj
      exact hfirst
    · -- The named index would stand before the new one.
      rw [List.concat_eq_append, ← List.cons_append, ← List.append_assoc] at hsplit
      obtain ⟨rfl, _⟩ := List.append_inj' hsplit rfl
      exact absurd ⟨hspace, hname⟩ (hnew j (by simp))
  · intro h
    exact ⟨l, i, [], rfl, rfl, rfl, h⟩

/-- Where no two indexes have one key, each of them is the first of its key. -/
theorem exists_first_iff_of_nodup {l : List Index} {space name : String}
    (h : (l.map Index.key).Nodup) :
    (∃ before i after, l = before ++ i :: after ∧ i.space = space ∧ i.name = name ∧
      ∀ j ∈ before, j.key ≠ i.key) ↔ ∃ i ∈ l, i.space = space ∧ i.name = name := by
  constructor
  · rintro ⟨before, i, after, rfl, hspace, hname, _⟩
    exact ⟨i, List.mem_append_right before List.mem_cons_self, hspace, hname⟩
  · rintro ⟨i, hi, hspace, hname⟩
    obtain ⟨before, after, rfl⟩ := List.append_of_mem hi
    refine ⟨before, i, after, rfl, hspace, hname, ?_⟩
    intro j hj hkey
    rw [List.map_append, List.nodup_append] at h
    exact h.2.2 j.key (List.mem_map_of_mem hj) i.key (by simp) hkey

/-- Which names are known after indexes have been created and dropped on a cluster that was empty
and has a node that is up. -/
theorem indexExists_iff_first {down : List String} (hup : ∃ node ∈ nodes, node ∉ down)
    {calls : List ClusterCall}
    (hcalls : ∀ call ∈ calls, call.DefinesOn nodes ∧ call.IsDescribable)
    (hcall : call.DefinesOn nodes ∧ call.IsDescribable) :
    let m := run { cluster := { nodes, down } } calls
    let r := m.step call
    (∀ node n, r.outcome = some (.ok (.published node n)) → ∀ space name,
      (r.state.indexExists space name = true ↔
        ∃ before i after, r.state.cluster.indexes = before ++ i :: after ∧
          i.space = space ∧ i.name = name ∧ ∀ j ∈ before, j.key ≠ i.key) ∧
      ((r.state.cluster.indexes.map Index.key).Nodup →
        (r.state.indexExists space name = true ↔
          ∃ i ∈ r.state.cluster.indexes, i.space = space ∧ i.name = name))) ∧
    ∀ spec order c, call = .create spec order → m.cluster.create spec = .ok c →
      (∃ node n, r.outcome = some (.ok (.published node n))) ∧
      (r.state.indexExists spec.space spec.name = true ↔
        ∀ j ∈ m.cluster.indexes, j.key ≠ spec.toIndex.key) := by
  intro m r
  have hm : ∀ i ∈ m.cluster.indexes, i.IsDescribable :=
    describable_run (by simp) fun call hcall => (hcalls call hcall).2
  have hfollows : Follows m call r := follows_step hm hcall.2
  have hexists : ∀ node n, r.outcome = some (.ok (.published node n)) → ∀ space name,
      (r.state.indexExists space name = true ↔
        ∃ before i after, r.state.cluster.indexes = before ++ i :: after ∧
          i.space = space ∧ i.name = name ∧ ∀ j ∈ before, j.key ≠ i.key) := by
    intro node n hout space name
    rw [indexExists, (hfollows.published node n hout).1, Snapshot.containsName_ofList_iff]
  refine ⟨?_, ?_⟩
  · intro node n hout space name
    have hiff := hexists node n hout space name
    exact ⟨hiff, fun hnodup => hiff.trans (exists_first_iff_of_nodup hnodup)⟩
  · rintro spec order c rfl hcreate
    have hdown : m.cluster.down = down := down_run (by simp) hcalls
    have hnode : ∃ node ∈ order, node ∉ m.cluster.down := by
      obtain ⟨node, hnode, hnodeup⟩ := hup
      exact ⟨node, hcall.1.mem_iff.2 hnode, hdown ▸ hnodeup⟩
    obtain ⟨node, n, hout⟩ := published_of_create hm hcall.2 hnode hcreate
    refine ⟨⟨node, n, hout⟩, ?_⟩
    obtain ⟨hc, hnew⟩ := MemoryCluster.eq_add_of_create hcreate
    have hindexes : r.state.cluster.indexes = m.cluster.indexes ++ [spec.toIndex] := by
      rw [(hfollows.accepted c hcreate).1, hc]
      rfl
    rw [hexists node n hout, hindexes]
    exact exists_first_append_iff hnew

/-- An index on the elements of lists of ages. It has the key of the index on ages. -/
def agesSpec : IndexSpec :=
  { space := "test", set := some "people", name := "ages_idx", bin := "age", type := .numeric,
    shape := .list }

/-- The later index is known by its name as soon as the earlier one is dropped. -/
theorem indexExists_iff_first_dropped :
    let r := (run { cluster := { nodes := ["n1", "n2"], down := ["n1"] } }
      [.create ageSpec ["n1", "n2"], .create agesSpec ["n2", "n1"]]).step
        (.dropIndex ⟨"test", some "people"⟩ "age_idx" ["n2", "n1"])
    r.outcome = some (.ok (.published "n2" 1)) ∧ r.state.indexExists "test" "ages_idx" = true := by
  intro r
  have hread : r.outcome.map Except.toOption = some (some (.published "n2" 1)) := by
    decide +kernel
  have houtcome := ClusterReply.outcome_of_toOption hread
  have hindexes : r.state.cluster.indexes = [agesSpec.toIndex] := by decide +kernel
  have hexists := (@indexExists_iff_first
    (.dropIndex ⟨"test", some "people"⟩ "age_idx" ["n2", "n1"]) ["n1", "n2"] ["n1"]
    ⟨"n2", by decide, by decide⟩ [.create ageSpec ["n1", "n2"], .create agesSpec ["n2", "n1"]]
    (by decide) (by decide)).1 "n2" 1 houtcome "test" "ages_idx"
  refine ⟨houtcome, hexists.1.2 ?_⟩
  exact ⟨[], agesSpec.toIndex, [], hindexes, rfl, rfl, by simp⟩

/-- Not every index that the cluster holds is known by its name: two indexes may have one key. -/
theorem not_forall_indexExists_iff :
    ¬ ∀ (nodes down : List String), (∃ node ∈ nodes, node ∉ down) →
      ∀ (calls : List ClusterCall) (call : ClusterCall),
        (∀ c ∈ call :: calls, c.DefinesOn nodes ∧ c.IsDescribable) →
        ∀ node n, ((run { cluster := { nodes, down } } calls).step call).outcome =
            some (.ok (.published node n)) → ∀ space name,
          (((run { cluster := { nodes, down } } calls).step call).state.indexExists space name =
              true ↔
            ∃ i ∈ ((run { cluster := { nodes, down } } calls).step call).state.cluster.indexes,
              i.space = space ∧ i.name = name) := by
  intro h
  have hread : ((run { cluster := { nodes := ["n1"] } } [.create ageSpec ["n1"]]).step
      (.create agesSpec ["n1"])).outcome.map Except.toOption = some (some (.published "n1" 1)) := by
    decide +kernel
  have hexists := h ["n1"] [] ⟨"n1", by decide, by decide⟩ [.create ageSpec ["n1"]]
    (.create agesSpec ["n1"]) (by decide) "n1" 1 (ClusterReply.outcome_of_toOption hread)
    "test" "ages_idx"
  have hunknown : ((run { cluster := { nodes := ["n1"] } } [.create ageSpec ["n1"]]).step
      (.create agesSpec ["n1"])).state.indexExists "test" "ages_idx" = false := by decide +kernel
  rw [hunknown] at hexists
  have hheld : agesSpec.toIndex ∈ ((run { cluster := { nodes := ["n1"] } }
      [.create ageSpec ["n1"]]).step (.create agesSpec ["n1"])).state.cluster.indexes := by
    decide +kernel
  exact Bool.false_ne_true (hexists.2 ⟨_, hheld, rfl, rfl⟩)

end ManagedCluster

end IndexPlanner

import IndexPlanner.Cluster.Memory
import IndexPlanner.Proofs.Cluster.Refresh
import IndexPlanner.Proofs.Index.Info

/-! A cluster under one call after the other: indexes are created, dropped and added, nodes go down
and come up again, and what is known is refreshed. After each call, what is known either follows
the indexes of the cluster, or is what it was before, or is nothing because no node answered. -/
namespace IndexPlanner

/-- What is done to a cluster and what is known of it. Whoever needs an answer asks the nodes in
the order that is given. -/
inductive ClusterCall where
  | create (spec : IndexSpec) (order : List String)
  | dropIndex (scope : Scope) (name : String) (order : List String)
  | refresh (order : List String)
  | add (index : Index)
  | setDown (node : String) (down : Bool)

/-- What a call has come to. A call without a refresh has no outcome. -/
structure ClusterReply where
  outcome : Option (Except IndexError RefreshOutcome)
  asked : List String
  state : ManagedCluster

theorem ClusterReply.outcome_of_toOption {r : ClusterReply} {o : RefreshOutcome}
    (h : r.outcome.map Except.toOption = some (some o)) : r.outcome = some (.ok o) := by
  obtain ⟨x, hx, ho⟩ := Option.map_eq_some_iff.1 h
  rw [hx, eq_ok_of_toOption ho]

/-- The reply to a call with a refresh. -/
def Managed.reply (r : Managed) : ClusterReply := ⟨some r.outcome, r.asked, r.state⟩

namespace ClusterCall

/-- The cluster after the call, or why it refuses it. -/
def effect (call : ClusterCall) (c : MemoryCluster) : Except StoreError MemoryCluster :=
  match call with
  | create spec _ => c.create spec
  | dropIndex scope name _ => c.dropIndex scope name
  | refresh _ => .ok c
  | add i => .ok (c.add i)
  | setDown node down => .ok (c.setDown node down)

/-- The call brings no index that an entry cannot describe. -/
def IsDescribable : ClusterCall → Prop
  | create spec _ => spec.toIndex.IsDescribable
  | add i => i.IsDescribable
  | _ => True

instance : DecidablePred IsDescribable
  | create spec _ => inferInstanceAs (Decidable spec.toIndex.IsDescribable)
  | add i => inferInstanceAs (Decidable i.IsDescribable)
  | dropIndex .. => .isTrue trivial
  | refresh _ => .isTrue trivial
  | setDown .. => .isTrue trivial

end ClusterCall

namespace ManagedCluster

/-- One call. -/
def step (m : ManagedCluster) : ClusterCall → ClusterReply
  | .create spec order => (m.create spec order).reply
  | .dropIndex scope name order => (m.dropIndex scope name order).reply
  | .refresh order => (m.refresh order).reply
  | .add i => ⟨none, [], { m with cluster := m.cluster.add i }⟩
  | .setDown node down => ⟨none, [], { m with cluster := m.cluster.setDown node down }⟩

/-- The cluster after one call and the other. -/
def run (m : ManagedCluster) (calls : List ClusterCall) : ManagedCluster :=
  calls.foldl (fun m call => (m.step call).state) m

end ManagedCluster

variable {node text : String}

namespace MemoryCluster

variable {c : MemoryCluster}

theorem answer_eq_ok_iff :
    c.answer node = .ok text ↔ node ∉ c.down ∧ text = (Snapshot.ofList c.indexes).info := by
  rw [answer]
  split <;> simp_all [eq_comm]

/-- A refresh over the cluster either finds every node down, or learns what the cluster holds. -/
theorem refresh_answer (h : ∀ i ∈ c.indexes, i.IsDescribable) (known : Snapshot)
    (order : List String) :
    (∀ node ∈ order, node ∈ c.down) ∧
        (∃ asked, known.refresh c.answer order = ⟨.ok .unreachable, .empty, asked⟩) ∨
      ∃ node asked, known.refresh c.answer order =
        ⟨.ok (.published node (Snapshot.ofList c.indexes).size), .ofList c.indexes, asked⟩ := by
  have hread : Snapshot.ofInfo (Snapshot.ofList c.indexes).info = .ok (.ofList c.indexes) :=
    Snapshot.ofInfo_info_iff.2 fun i hi => h i (Snapshot.mem_of_mem_ofList hi)
  rcases silent_or_exists_first c.answer order with
    hsilent | ⟨before, node, after, text, rfl, hsilent, hanswer⟩
  · refine .inl ⟨?_, order, Snapshot.refresh_of_silent hsilent⟩
    intro node hnode
    obtain ⟨e, he⟩ := hsilent node hnode
    by_cases hdown : node ∈ c.down
    · exact hdown
    · rw [answer_eq_ok_iff.2 ⟨hdown, rfl⟩] at he
      cases he
  · obtain ⟨_, rfl⟩ := answer_eq_ok_iff.1 hanswer
    exact .inr ⟨node, _, Snapshot.refresh_of_readable after hsilent hanswer hread⟩

theorem forall_mem_dropIndex {P : Index → Prop} {scope : Scope} {name : String}
    {c' : MemoryCluster} (h : ∀ i ∈ c.indexes, P i) (hdrop : c.dropIndex scope name = .ok c') :
    ∀ i ∈ c'.indexes, P i := by
  rw [dropIndex] at hdrop
  split at hdrop
  · cases hdrop
    intro i hi
    exact h i (List.mem_filter.1 hi).1
  · cases hdrop

theorem eq_add_of_create {spec : IndexSpec} {c' : MemoryCluster} (h : c.create spec = .ok c') :
    c' = c.add spec.toIndex ∧ ∀ i ∈ c.indexes, ¬ (i.space = spec.space ∧ i.name = spec.name) := by
  rw [create] at h
  split at h
  · cases h
  · next hnew =>
    cases h
    simpa using hnew

end MemoryCluster

/-- After the call with this reply, what is known follows the cluster as far as it can. -/
structure Follows (m : ManagedCluster) (call : ClusterCall) (r : ClusterReply) : Prop where
  /-- A refusal leaves all as it was, and nobody is asked. -/
  refused : ∀ e, call.effect m.cluster = .error e → r = ⟨some (.error (.refused e)), [], m⟩
  /-- Nothing but a refusal fails. -/
  accepted : ∀ c, call.effect m.cluster = .ok c →
    r.state.cluster = c ∧ ∀ e, r.outcome ≠ some (.error e)
  published : ∀ node n, r.outcome = some (.ok (.published node n)) →
    r.state.known = .ofList r.state.cluster.indexes ∧ n = r.state.known.size
  unreachable : r.outcome = some (.ok .unreachable) → r.state.known = .empty
  silent : r.outcome = none → r.state.known = m.known ∧ r.asked = []

namespace ManagedCluster

variable {m : ManagedCluster} {call : ClusterCall}

/-- What comes of a change that the cluster has accepted. -/
theorem reply_change {c : MemoryCluster} (h : ∀ i ∈ c.indexes, i.IsDescribable)
    (order : List String) :
    (∀ node ∈ order, node ∈ c.down) ∧
        (∃ asked, (m.change (.ok c) order).reply =
          ⟨some (.ok .unreachable), asked, ⟨c, .empty⟩⟩) ∨
      ∃ node asked, (m.change (.ok c) order).reply =
        ⟨some (.ok (.published node (Snapshot.ofList c.indexes).size)), asked,
          ⟨c, .ofList c.indexes⟩⟩ := by
  have hreply : (m.change (.ok c) order).reply =
      ⟨some ((m.known.refresh c.answer order).outcome.mapError .info),
        (m.known.refresh c.answer order).asked,
        ⟨c, (m.known.refresh c.answer order).known⟩⟩ := rfl
  rcases MemoryCluster.refresh_answer h m.known order with
    ⟨hdown, asked, hr⟩ | ⟨node, asked, hr⟩
  · refine .inl ⟨hdown, asked, ?_⟩
    rw [hreply, hr]
    rfl
  · refine .inr ⟨node, asked, ?_⟩
    rw [hreply, hr]
    rfl

theorem follows_change {changed : Except StoreError MemoryCluster}
    (heffect : call.effect m.cluster = changed)
    (h : ∀ c, changed = .ok c → ∀ i ∈ c.indexes, i.IsDescribable) (order : List String) :
    Follows m call (m.change changed order).reply := by
  cases changed with
  | error e =>
    have hreply : (m.change (.error e) order).reply = ⟨some (.error (.refused e)), [], m⟩ := rfl
    rw [hreply]
    exact {
      refused := by
        intro e' he
        rw [heffect] at he
        cases he
        rfl
      accepted := by simp [heffect]
      published := by simp
      unreachable := by simp
      silent := by simp }
  | ok c =>
    rcases reply_change (h c rfl) order with ⟨_, asked, hreply⟩ | ⟨node, asked, hreply⟩
    · rw [hreply]
      exact {
        refused := by simp [heffect]
        accepted := by simp [heffect]
        published := by simp
        unreachable := fun _ => rfl
        silent := by simp }
    · rw [hreply]
      exact {
        refused := by simp [heffect]
        accepted := by simp [heffect]
        published := by
          intro node' n hn
          cases hn
          exact ⟨rfl, rfl⟩
        unreachable := by simp
        silent := by simp }

theorem describable_effect {c : MemoryCluster} (hm : ∀ i ∈ m.cluster.indexes, i.IsDescribable)
    (hcall : call.IsDescribable) (h : call.effect m.cluster = .ok c) :
    ∀ i ∈ c.indexes, i.IsDescribable := by
  have hadd : ∀ i : Index, i.IsDescribable →
      ∀ j ∈ (m.cluster.add i).indexes, j.IsDescribable := by
    intro i hi
    exact List.forall_mem_append.2 ⟨hm, by simpa using hi⟩
  cases call with
  | create spec order =>
    obtain ⟨rfl, _⟩ := MemoryCluster.eq_add_of_create h
    exact hadd _ hcall
  | dropIndex scope name order => exact MemoryCluster.forall_mem_dropIndex hm h
  | refresh order =>
    cases h
    exact hm
  | add i =>
    cases h
    exact hadd i hcall
  | setDown node down =>
    cases h
    exact hm

theorem follows_step (hm : ∀ i ∈ m.cluster.indexes, i.IsDescribable)
    (hcall : call.IsDescribable) : Follows m call (m.step call) := by
  have hchanged : ∀ c, call.effect m.cluster = .ok c → ∀ i ∈ c.indexes, i.IsDescribable :=
    fun c => describable_effect hm hcall
  cases call with
  | create spec order => exact follows_change rfl hchanged order
  | dropIndex scope name order => exact follows_change rfl hchanged order
  | refresh order => exact follows_change rfl hchanged order
  | add i =>
    exact ⟨by simp [ClusterCall.effect], by simp [ClusterCall.effect, step], by simp [step],
      by simp [step], fun _ => ⟨rfl, rfl⟩⟩
  | setDown node down =>
    exact ⟨by simp [ClusterCall.effect], by simp [ClusterCall.effect, step], by simp [step],
      by simp [step], fun _ => ⟨rfl, rfl⟩⟩

theorem describable_step (hm : ∀ i ∈ m.cluster.indexes, i.IsDescribable)
    (hcall : call.IsDescribable) :
    ∀ i ∈ (m.step call).state.cluster.indexes, i.IsDescribable := by
  have hfollows := follows_step hm hcall
  cases heffect : call.effect m.cluster with
  | error e =>
    rw [hfollows.refused e heffect]
    exact hm
  | ok c =>
    rw [(hfollows.accepted c heffect).1]
    exact describable_effect hm hcall heffect

theorem describable_run {calls : List ClusterCall}
    (hm : ∀ i ∈ m.cluster.indexes, i.IsDescribable) (hcalls : ∀ call ∈ calls, call.IsDescribable) :
    ∀ i ∈ (m.run calls).cluster.indexes, i.IsDescribable := by
  induction calls generalizing m with
  | nil => exact hm
  | cons call calls ih =>
    obtain ⟨hcall, hrest⟩ := List.forall_mem_cons.1 hcalls
    exact ih (describable_step hm hcall) hrest

/-- At every point of a run, what is known follows the cluster, whichever nodes are down and in
whatever order they are asked. -/
theorem follows_of_run {calls : List ClusterCall} (hm : ∀ i ∈ m.cluster.indexes, i.IsDescribable)
    (hcalls : ∀ call ∈ calls, call.IsDescribable) (hcall : call.IsDescribable) :
    Follows (m.run calls) call ((m.run calls).step call) :=
  follows_step (describable_run hm hcalls) hcall

/-- An index on ages. -/
def ageSpec : IndexSpec :=
  { space := "test", set := some "people", name := "age_idx", bin := "age", type := .numeric }

/-- An index of a kind that is not known, with an equality sign in its name. -/
def oddIndex : Index := ⟨"odd=1", "test", none, "age", none, none⟩

/-- Both indexes come to a cluster, one of whose nodes goes down after that. -/
def additions : List ClusterCall :=
  [.create ageSpec ["n2", "n1"], .add oddIndex, .setDown "n1" true]

/-- The node that is still up describes both indexes. -/
theorem follows_of_run_additions :
    let r := (run { cluster := { nodes := ["n1", "n2"] } } additions).step (.refresh ["n1", "n2"])
    r.outcome = some (.ok (.published "n2" 2)) ∧
      r.state.known = .ofList [ageSpec.toIndex, oddIndex] := by
  intro r
  have hfollows : Follows (run { cluster := { nodes := ["n1", "n2"] } } additions)
      (.refresh ["n1", "n2"]) r :=
    follows_of_run (by decide) (by decide) (by decide)
  have hread : r.outcome.map Except.toOption = some (some (.published "n2" 2)) := by
    decide +kernel
  have houtcome := ClusterReply.outcome_of_toOption hread
  refine ⟨houtcome, ?_⟩
  rw [(hfollows.published "n2" 2 houtcome).1]
  decide +kernel

end ManagedCluster

end IndexPlanner

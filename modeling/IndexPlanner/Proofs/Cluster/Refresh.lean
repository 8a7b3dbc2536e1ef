import IndexPlanner.Cluster.Refresh
import IndexPlanner.Proofs.Outcome

/-! What a refresh comes to. Nodes are asked in turn up to the first that answers. Its answer
replaces all that was known; an answer that cannot be read replaces nothing; and when no node
answers, nothing is known any more. So the order of the nodes matters only as far as their answers
differ. -/
namespace IndexPlanner

variable {answers : Answers} {nodes order order' before : List String} {node text : String}
  {known s : Snapshot} {e : InfoError}

/-- The node gives no answer. -/
def Answers.Silent (answers : Answers) (node : String) : Prop := ∃ e, answers node = .error e

/-- What a refresh may come to when the nodes are asked in the given order. -/
inductive Refreshes (known : Snapshot) (answers : Answers) : List String → Refresh → Prop
  /-- All nodes are asked in vain. -/
  | unreachable {order : List String} (silent : ∀ n ∈ order, answers.Silent n) :
      Refreshes known answers order ⟨.ok .unreachable, .empty, order⟩
  /-- The first answer can be read. -/
  | published {before after : List String} {node text : String} {s : Snapshot}
      (silent : ∀ n ∈ before, answers.Silent n) (answer : answers node = .ok text)
      (readable : Snapshot.ofInfo text = .ok s) :
      Refreshes known answers (before ++ node :: after)
        ⟨.ok (.published node s.size), s, before ++ [node]⟩
  /-- The first answer cannot be read. -/
  | rejected {before after : List String} {node text : String} {e : InfoError}
      (silent : ∀ n ∈ before, answers.Silent n) (answer : answers node = .ok text)
      (unreadable : Snapshot.ofInfo text = .error e) :
      Refreshes known answers (before ++ node :: after) ⟨.error e, known, before ++ [node]⟩

/-! The first answer. -/

theorem firstAnswer_of_silent (h : ∀ n ∈ nodes, answers.Silent n) :
    firstAnswer answers nodes = (none, nodes) := by
  induction nodes with
  | nil => rfl
  | cons n nodes ih =>
    obtain ⟨⟨e, he⟩, hrest⟩ := List.forall_mem_cons.1 h
    rw [firstAnswer, he]
    simp only [ih hrest, Prod.map, id_eq]

theorem firstAnswer_of_answer (after : List String) (hsilent : ∀ n ∈ before, answers.Silent n)
    (h : answers node = .ok text) :
    firstAnswer answers (before ++ node :: after) = (some (node, text), before ++ [node]) := by
  induction before with
  | nil =>
    rw [List.nil_append, firstAnswer, h]
    rfl
  | cons n before ih =>
    obtain ⟨⟨e, he⟩, hrest⟩ := List.forall_mem_cons.1 hsilent
    rw [List.cons_append, firstAnswer, he]
    simp only [ih hrest, Prod.map, id_eq, List.cons_append]

/-- Either no node answers, or one of them is the first. -/
theorem silent_or_exists_first (answers : Answers) (nodes : List String) :
    (∀ n ∈ nodes, answers.Silent n) ∨ ∃ before node after text, nodes = before ++ node :: after ∧
      (∀ n ∈ before, answers.Silent n) ∧ answers node = .ok text := by
  induction nodes with
  | nil => exact .inl (List.forall_mem_nil _)
  | cons n nodes ih =>
    cases hn : answers n with
    | ok text => exact .inr ⟨[], n, nodes, text, rfl, List.forall_mem_nil _, hn⟩
    | error e =>
      rcases ih with hsilent | ⟨before, node, after, text, rfl, hsilent, h⟩
      · exact .inl (List.forall_mem_cons.2 ⟨⟨e, hn⟩, hsilent⟩)
      · exact .inr ⟨n :: before, node, after, text, rfl,
          List.forall_mem_cons.2 ⟨⟨e, hn⟩, hsilent⟩, h⟩

namespace Snapshot

/-! What comes of it. -/

theorem refresh_of_silent (h : ∀ n ∈ order, answers.Silent n) :
    known.refresh answers order = ⟨.ok .unreachable, .empty, order⟩ := by
  rw [refresh, firstAnswer_of_silent h]

theorem refresh_of_readable (after : List String) (hsilent : ∀ n ∈ before, answers.Silent n)
    (h : answers node = .ok text) (hread : ofInfo text = .ok s) :
    known.refresh answers (before ++ node :: after) =
      ⟨.ok (.published node s.size), s, before ++ [node]⟩ := by
  rw [refresh, firstAnswer_of_answer after hsilent h]
  simp only [hread]

theorem refresh_of_unreadable (after : List String) (hsilent : ∀ n ∈ before, answers.Silent n)
    (h : answers node = .ok text) (hread : ofInfo text = .error e) :
    known.refresh answers (before ++ node :: after) = ⟨.error e, known, before ++ [node]⟩ := by
  rw [refresh, firstAnswer_of_answer after hsilent h]
  simp only [hread]

theorem refreshes_refresh (known : Snapshot) (answers : Answers) (order : List String) :
    Refreshes known answers order (known.refresh answers order) := by
  rcases silent_or_exists_first answers order with
    hsilent | ⟨before, node, after, text, rfl, hsilent, hanswer⟩
  · rw [refresh_of_silent hsilent]
    exact .unreachable hsilent
  · cases hread : ofInfo text with
    | ok s =>
      rw [refresh_of_readable after hsilent hanswer hread]
      exact .published hsilent hanswer hread
    | error e =>
      rw [refresh_of_unreadable after hsilent hanswer hread]
      exact .rejected hsilent hanswer hread

/-- A refresh comes to one thing only. -/
theorem refreshes_iff {r : Refresh} :
    Refreshes known answers order r ↔ r = known.refresh answers order := by
  constructor
  · intro h
    cases h with
    | unreachable silent => rw [refresh_of_silent silent]
    | published silent answer readable => rw [refresh_of_readable _ silent answer readable]
    | rejected silent answer unreadable => rw [refresh_of_unreadable _ silent answer unreadable]
  · rintro rfl
    exact refreshes_refresh known answers order

/-- When all answers are one text, that text decides what is known. -/
theorem known_refresh_of_forall (known : Snapshot)
    (hone : ∀ n ∈ order, ∀ t, answers n = .ok t → t = text) :
    (∀ n ∈ order, answers.Silent n) ∧ (known.refresh answers order).known = .empty ∨
      ¬ (∀ n ∈ order, answers.Silent n) ∧
        (known.refresh answers order).known = (ofInfo text).toOption.getD known := by
  rcases silent_or_exists_first answers order with
    hsilent | ⟨before, node, after, text', rfl, hsilent, hanswer⟩
  · exact .inl ⟨hsilent, by rw [refresh_of_silent hsilent]⟩
  · have hmem : node ∈ before ++ node :: after := by simp
    obtain rfl := hone node hmem text' hanswer
    refine .inr ⟨?_, ?_⟩
    · intro hall
      obtain ⟨e, he⟩ := hall node hmem
      cases hanswer.symm.trans he
    · cases hread : ofInfo text' with
      | ok s =>
        rw [refresh_of_readable after hsilent hanswer hread]
        rfl
      | error e =>
        rw [refresh_of_unreadable after hsilent hanswer hread]
        rfl

theorem known_refresh_perm (hone : ∀ n ∈ order, ∀ t, answers n = .ok t → t = text)
    (h : order.Perm order') :
    (known.refresh answers order).known = (known.refresh answers order').known := by
  have hmem : ∀ P : String → Prop, (∀ n ∈ order', P n) ↔ ∀ n ∈ order, P n := by
    intro P
    simp only [h.mem_iff]
  have hone' := (hmem fun n => ∀ t, answers n = .ok t → t = text).2 hone
  have hsilent := hmem answers.Silent
  rcases known_refresh_of_forall known hone with ⟨hs, hk⟩ | ⟨hs, hk⟩ <;>
    rcases known_refresh_of_forall known hone' with ⟨hs', hk'⟩ | ⟨hs', hk'⟩
  · rw [hk, hk']
  · exact absurd (hsilent.2 hs) hs'
  · exact absurd (hsilent.1 hs') hs
  · rw [hk, hk']

/-- What the nodes would answer that are not asked does not matter. -/
theorem refresh_congr {answers' : Answers}
    (h : ∀ n ∈ (known.refresh answers order).asked, answers' n = answers n) :
    known.refresh answers' order = known.refresh answers order := by
  refine (refreshes_iff.1 ?_).symm
  have hsilent : ∀ {ns : List String}, (∀ n ∈ ns, answers' n = answers n) →
      (∀ n ∈ ns, answers.Silent n) → ∀ n ∈ ns, answers'.Silent n := by
    intro ns heq hns n hn
    obtain ⟨e, he⟩ := hns n hn
    exact ⟨e, by rw [heq n hn, he]⟩
  generalize hr : known.refresh answers order = r at h
  cases refreshes_iff.2 hr.symm with
  | unreachable silent => exact .unreachable (hsilent h silent)
  | published silent answer readable =>
    obtain ⟨hbefore, hnode⟩ := List.forall_mem_append.1 h
    rw [← hnode _ List.mem_cons_self] at answer
    exact .published (hsilent hbefore silent) answer readable
  | rejected silent answer unreadable =>
    obtain ⟨hbefore, hnode⟩ := List.forall_mem_append.1 h
    rw [← hnode _ List.mem_cons_self] at answer
    exact .rejected (hsilent hbefore silent) answer unreadable

/-- In whatever order the nodes of a cluster are asked, a refresh comes to what its rules say, and
to nothing else; and it looks at the answers of the nodes that it asks only. When all nodes that
answer give one text, what is known after the refresh is the same for every order. -/
theorem refresh_all_or_nothing (known : Snapshot) (answers : Answers) {nodes order : List String}
    (h : order.Perm nodes) :
    (∀ r, Refreshes known answers order r ↔ r = known.refresh answers order) ∧
    (∀ answers' : Answers, (∀ n ∈ (known.refresh answers order).asked, answers' n = answers n) →
      known.refresh answers' order = known.refresh answers order) ∧
    ((∃ text, ∀ n ∈ nodes, ∀ t, answers n = .ok t → t = text) → ∀ order', order'.Perm nodes →
      (known.refresh answers order').known = (known.refresh answers order).known) := by
  refine ⟨fun r => refreshes_iff, fun answers' => refresh_congr, ?_⟩
  rintro ⟨text, hone⟩ order' h'
  exact known_refresh_perm (fun n hn => hone n (h'.mem_iff.1 hn)) (h'.trans h.symm)

/-- The text in which a node describes one index. -/
def listed : String := "ns=a:name=i:bin=b:type=STRING:indextype=LIST"

/-- One node is too slow, and the others give the text. -/
def slowFirst : Answers := fun node => if node = "n1" then .error (.timeout 50) else .ok listed

/-- What was known before. -/
def stale : Snapshot := ofList [⟨"old", "a", none, "c", some .numeric, some .plain⟩]

/-- The third node is not asked, and it could as well have been asked instead of the second. -/
theorem refresh_all_or_nothing_slowFirst :
    let r := stale.refresh slowFirst ["n1", "n3", "n2"]
    r.outcome = .ok (.published "n3" 1) ∧ r.asked = ["n1", "n3"] ∧
      r.known = ofList [⟨"i", "a", none, "b", some .string, some .list⟩] ∧
      (stale.refresh slowFirst ["n2", "n1", "n3"]).known = r.known := by
  intro r
  obtain ⟨hrules, _, hsame⟩ := @refresh_all_or_nothing stale slowFirst
    ["n1", "n2", "n3"] ["n1", "n3", "n2"] (by decide)
  have hsilent : ∀ n ∈ ["n1"], slowFirst.Silent n := by
    intro n hn
    rw [List.mem_singleton.1 hn]
    exact ⟨.timeout 50, rfl⟩
  have hread : ofInfo listed = .ok (ofList [⟨"i", "a", none, "b", some .string, some .list⟩]) :=
    eq_ok_of_toOption (by decide +kernel)
  have hanswer : slowFirst "n3" = .ok listed := rfl
  have hr := (hrules _).1 (@Refreshes.published _ _ _ ["n2"] _ _ _ hsilent hanswer hread)
  refine ⟨?_, ?_, ?_, hsame ⟨listed, ?_⟩ _ (by decide)⟩
  · exact (congrArg Refresh.outcome hr).symm
  · exact (congrArg Refresh.asked hr).symm
  · exact (congrArg Refresh.known hr).symm
  · intro n _ t ht
    rw [slowFirst] at ht
    split at ht
    · cases ht
    · cases ht
      rfl

end Snapshot

end IndexPlanner

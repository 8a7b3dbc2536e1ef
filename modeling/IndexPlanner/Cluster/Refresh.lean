import IndexPlanner.Index.Info
import IndexPlanner.Store.Error

/-! Keeping the known indexes in line with a cluster. The nodes are asked one after the other until
one answers, and its answer alone counts. If none answers, nothing is known to be indexed; an
answer that cannot be read leaves what was known before. -/
namespace IndexPlanner

/-- The answers of nodes: a text, or why there is none. -/
abbrev Answers := String → Except StoreError String

/-- How a refresh ended when nothing was wrong with the answer. -/
inductive RefreshOutcome where
  | published (node : String) (count : Nat)
  | unreachable
  deriving DecidableEq, Repr

/-- A refresh: its outcome, what is known after it, and the nodes that were asked. -/
structure Refresh where
  outcome : Except InfoError RefreshOutcome
  known : Snapshot
  asked : List String

/-- The first node that answers with its answer, and the nodes asked up to it. -/
def firstAnswer (answers : Answers) : List String → Option (String × String) × List String
  | [] => (none, [])
  | node :: rest =>
    match answers node with
    | .ok text => (some (node, text), [node])
    | .error _ => (firstAnswer answers rest).map id (node :: ·)

/-- Asks the nodes in the given order. -/
def Snapshot.refresh (known : Snapshot) (answers : Answers) (nodes : List String) : Refresh :=
  match firstAnswer answers nodes with
  | (none, asked) => ⟨.ok .unreachable, .empty, asked⟩
  | (some (node, text), asked) =>
    match Snapshot.ofInfo text with
    | .ok s => ⟨.ok (.published node s.size), s, asked⟩
    | .error e => ⟨.error e, known, asked⟩

end IndexPlanner

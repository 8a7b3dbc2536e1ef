import IndexPlanner.Index.Basic

/-! Everything that is known about the indexes of a cluster at one moment, in the order of their
keys. Of two indexes with one key the first stays. -/
namespace IndexPlanner

/-- Indexes in strictly ascending order of their keys. -/
def Index.Ascending (indexes : List Index) : Prop :=
  indexes.Pairwise fun i j => IndexKey.cmp i.key j.key = .lt

/-- Adds an index at its place unless its key is there already. -/
def Index.insertNew (i : Index) : List Index → List Index
  | [] => [i]
  | j :: rest =>
    match IndexKey.cmp i.key j.key with
    | .lt => i :: j :: rest
    | .eq => j :: rest
    | .gt => j :: insertNew i rest

namespace Index

theorem mem_insertNew {i k : Index} {l : List Index} (h : k ∈ insertNew i l) : k = i ∨ k ∈ l := by
  induction l with
  | nil => simpa [insertNew] using h
  | cons j rest ih =>
    rw [insertNew] at h
    split at h
    · simpa using h
    · exact .inr h
    · rcases List.mem_cons.1 h with rfl | h
      · exact .inr (.head _)
      · exact (ih h).imp id (List.mem_cons_of_mem _)

theorem Ascending.insertNew {l : List Index} (h : Ascending l) (i : Index) :
    Ascending (insertNew i l) := by
  induction l with
  | nil => exact List.pairwise_singleton _ _
  | cons j rest ih =>
    obtain ⟨hj, hrest⟩ := List.pairwise_cons.1 h
    rw [Index.insertNew]
    split
    · next hlt =>
      exact List.pairwise_cons.2 ⟨fun k hk => (List.mem_cons.1 hk).elim (· ▸ hlt)
        fun hk => Std.TransCmp.lt_trans hlt (hj k hk), h⟩
    · exact h
    · next hgt =>
      refine List.pairwise_cons.2 ⟨fun k hk => ?_, ih hrest⟩
      rcases mem_insertNew hk with rfl | hk
      · exact Std.OrientedCmp.gt_iff_lt.1 hgt
      · exact hj k hk

theorem ascending_foldl {l acc : List Index} (h : Ascending acc) :
    Ascending (l.foldl (fun acc i => insertNew i acc) acc) := by
  induction l generalizing acc with
  | nil => exact h
  | cons i l ih => exact ih (h.insertNew i)

end Index

/-- The known indexes. -/
structure Snapshot where
  indexes : List Index
  ascending : Index.Ascending indexes

namespace Snapshot

/-- No index is known. -/
def empty : Snapshot := ⟨[], .nil⟩

instance : Inhabited Snapshot := ⟨empty⟩

/-- The snapshot of indexes in any order; the first of several with one key stays. -/
def ofList (indexes : List Index) : Snapshot :=
  ⟨indexes.foldl (fun acc i => i.insertNew acc) [], Index.ascending_foldl .nil⟩

/-- The number of indexes. -/
def size (s : Snapshot) : Nat := s.indexes.length

/-- The index with the given key. -/
def get? (s : Snapshot) (key : IndexKey) : Option Index := s.indexes.find? (·.key == key)

/-- Whether an index of any type covers the bin; one without a set covers every set. -/
def hasIndexFor (s : Snapshot) (scope : Scope) (bin : String) : Bool :=
  s.indexes.any (·.covers scope bin)

/-- Whether the namespace has an index of that name. -/
def containsName (s : Snapshot) (space name : String) : Bool :=
  s.indexes.any fun i => i.space == space && i.name == name

/-- The indexes of a namespace. -/
def inNamespace (s : Snapshot) (space : String) : List Index :=
  s.indexes.filter (·.space == space)

/-- The covered bins, each once. Indexes of one bin stand side by side. -/
def fields (s : Snapshot) : List IndexedField := dedupe (s.indexes.map Index.field)
where
  /-- Leaves out what repeats its neighbour. -/
  dedupe : List IndexedField → List IndexedField
    | [] => []
    | [f] => [f]
    | f :: g :: rest => if f = g then dedupe (g :: rest) else f :: dedupe (g :: rest)

theorem ext {s t : Snapshot} (h : s.indexes = t.indexes) : s = t := by
  cases s; cases t; cases h; rfl

instance : DecidableEq Snapshot := fun s t =>
  decidable_of_iff (s.indexes = t.indexes) ⟨ext, fun h => h ▸ rfl⟩

end Snapshot

end IndexPlanner

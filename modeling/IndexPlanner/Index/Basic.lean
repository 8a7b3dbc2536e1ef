import IndexPlanner.Scope

/-! Secondary indexes, as a cluster describes them. -/
namespace IndexPlanner

/-- The kind of values that an index holds. -/
inductive IndexType where
  | string
  | numeric
  | geo
  deriving DecidableEq, Repr

/-- The part of a bin that an index holds. -/
inductive IndexShape where
  | plain
  | list
  | mapKeys
  | mapValues
  deriving DecidableEq, Repr

namespace IndexType

/-- The name in an index description. -/
def name : IndexType → String
  | string => "STRING"
  | numeric => "NUMERIC"
  | geo => "GEOJSON"

/-- The type with the given name. -/
def ofName? (s : String) : Option IndexType := [string, numeric, geo].find? (·.name == s)

/-- The place of a type in the order of keys, an unknown type first. -/
def rank : Option IndexType → Nat
  | none => 0
  | some string => 1
  | some numeric => 2
  | some geo => 3

theorem rank_inj {s t : Option IndexType} (h : rank s = rank t) : s = t := by
  rcases s with _ | (_ | _ | _) <;> rcases t with _ | (_ | _ | _) <;>
    first | rfl | exact absurd h (by decide)

end IndexType

namespace IndexShape

/-- The name in an index description. -/
def name : IndexShape → String
  | plain => "NONE"
  | list => "LIST"
  | mapKeys => "MAPKEYS"
  | mapValues => "MAPVALUES"

/-- The shape with the given name. -/
def ofName? (s : String) : Option IndexShape :=
  [plain, list, mapKeys, mapValues].find? (·.name == s)

end IndexShape

/-- An index on a bin. Without a set it covers the whole namespace; a type or shape that has no
known name is absent. -/
structure Index where
  name : String
  space : String
  set : Option String
  bin : String
  type : Option IndexType
  shape : Option IndexShape
  deriving DecidableEq, Repr

/-- A bin of a scope, as an index covers it. -/
structure IndexedField where
  space : String
  set : Option String
  bin : String
  deriving DecidableEq, Repr

/-- What tells indexes apart: the bin and the type. -/
structure IndexKey where
  space : String
  set : Option String
  bin : String
  type : Option IndexType
  deriving DecidableEq, Repr

namespace IndexKey

/-- Keys are ordered by namespace, set, bin and type; what is absent comes first. -/
def cmp : IndexKey → IndexKey → Ordering :=
  compareLex (compareOn space) (compareLex (compareOn set)
    (compareLex (compareOn bin) (compareOn fun k => IndexType.rank k.type)))

instance : Std.TransCmp cmp := inferInstanceAs (Std.TransCmp (compareLex (compareOn space)
  (compareLex (compareOn set)
    (compareLex (compareOn bin) (compareOn fun k => IndexType.rank k.type)))))

theorem eq_of_cmp_eq {j k : IndexKey} (h : cmp j k = .eq) : j = k := by
  simp only [cmp, compareLex_eq_eq, compareOn, Std.LawfulEqCmp.compare_eq_iff_eq] at h
  obtain ⟨h₁, h₂, h₃, h₄⟩ := h
  have h₅ := IndexType.rank_inj h₄
  cases j; cases k
  simp_all

instance : Std.LawfulEqCmp cmp := ⟨eq_of_cmp_eq⟩

end IndexKey

namespace Index

/-- The bin that the index covers. -/
def field (i : Index) : IndexedField := ⟨i.space, i.set, i.bin⟩

/-- What tells the index apart. -/
def key (i : Index) : IndexKey := ⟨i.space, i.set, i.bin, i.type⟩

/-- Whether the index helps to find records of the scope by the bin. -/
def covers (i : Index) (scope : Scope) (bin : String) : Bool :=
  i.space == scope.space && i.bin == bin && (i.set == scope.set || i.set.isNone)

end Index

end IndexPlanner

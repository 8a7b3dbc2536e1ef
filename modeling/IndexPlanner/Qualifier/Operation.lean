/-! Operations of a qualifier. The kind of an operation says what it looks at and how many operands
it takes. -/
namespace IndexPlanner

/-- Comparisons of a single value with operands. -/
inductive Comparison where
  | equal
  | greater
  | atLeast
  | less
  | atMost
  | between
  | oneOf
  deriving DecidableEq, Repr

/-- Where an operand is looked for in a string. -/
inductive TextTest where
  | startsWith
  | endsWith
  | containing
  deriving DecidableEq, Repr

/-- The part of a collection that is looked at. -/
inductive Shape where
  | list
  | mapKeys
  | mapValues
  deriving DecidableEq, Repr

/-- What is asked of the elements of a collection. -/
inductive Membership where
  | contains
  | between
  deriving DecidableEq, Repr

/-- How the children of a group are joined. -/
inductive Junction where
  | and
  | or
  deriving DecidableEq, Repr

/-- The word that stands between joined texts. -/
def Junction.name : Junction → String
  | and => "AND"
  | or => "OR"

/-- An operation by its kind. -/
inductive Operation where
  | compare (comparison : Comparison)
  | matchText (test : TextTest)
  | search (shape : Shape) (membership : Membership)
  | geoWithin
  | group (junction : Junction)
  deriving DecidableEq, Repr

namespace Operation

/-- The number of operands; a group has none. -/
def arity : Operation → Nat
  | compare .between => 2
  | search _ .between => 2
  | group _ => 0
  | _ => 1

/-- Whether the operation joins other qualifiers. -/
def isGroup : Operation → Bool
  | group _ => true
  | _ => false

/-- Whether some filter of an index can express the operation. -/
def isIndexable : Operation → Bool
  | compare .oneOf => false
  | compare _ => true
  | geoWithin => true
  | _ => false

/-- The name by which the operation is written. -/
def name : Operation → String
  | compare .equal => "EQ"
  | compare .greater => "GT"
  | compare .atLeast => "GTEQ"
  | compare .less => "LT"
  | compare .atMost => "LTEQ"
  | compare .between => "BETWEEN"
  | compare .oneOf => "IN"
  | matchText .startsWith => "START_WITH"
  | matchText .endsWith => "ENDS_WITH"
  | matchText .containing => "CONTAINING"
  | search .list .contains => "LIST_CONTAINS"
  | search .list .between => "LIST_BETWEEN"
  | search .mapKeys .contains => "MAP_KEYS_CONTAINS"
  | search .mapKeys .between => "MAP_KEYS_BETWEEN"
  | search .mapValues .contains => "MAP_VALUES_CONTAINS"
  | search .mapValues .between => "MAP_VALUES_BETWEEN"
  | geoWithin => "GEO_WITHIN"
  | group j => j.name

/-- All operations. -/
def all : List Operation :=
  [compare .equal, compare .greater, compare .atLeast, compare .less, compare .atMost,
   compare .between, compare .oneOf, matchText .startsWith, matchText .endsWith,
   matchText .containing, search .list .contains, search .list .between,
   search .mapKeys .contains, search .mapKeys .between, search .mapValues .contains,
   search .mapValues .between, geoWithin, group .and, group .or]

/-- The operation with the given name. -/
def ofName? (s : String) : Option Operation := all.find? (·.name == s)

@[simp] theorem ofName?_name (op : Operation) : ofName? op.name = some op := by
  rcases op with c | t | ⟨s, m⟩ | _ | j
  · cases c <;> decide
  · cases t <;> decide
  · cases s <;> cases m <;> decide
  · decide
  · cases j <;> decide

/-- A name belongs to one operation. -/
theorem name_of_ofName? {s : String} {op : Operation} (h : ofName? s = some op) : op.name = s := by
  simpa using List.find?_some h

end Operation

end IndexPlanner

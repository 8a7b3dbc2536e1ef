import IndexPlanner.Json.Number

/-! Values of a document. The members of an object are kept in ascending order of their keys, each
key once, so that two objects with the same members are the same list. -/
namespace IndexPlanner.Json

/-- A value: a scalar, an array, or an object as its members by key. -/
inductive Value where
  | null
  | bool (b : Bool)
  | number (n : Number)
  | string (s : String)
  | array (items : List Value)
  | object (members : List (String × Value))
  deriving Inhabited, Repr

/-- The members of an object. -/
abbrev Members := List (String × Value)

namespace Members

/-- Puts a member in its place; the value of a key that is there already is replaced. -/
def insert (key : String) (value : Value) : Members → Members
  | [] => [(key, value)]
  | (k, v) :: rest =>
    match compare key k with
    | .lt => (key, value) :: (k, v) :: rest
    | .eq => (key, value) :: rest
    | .gt => (k, v) :: insert key value rest

/-- Members in any order: a repeated key keeps its last value. -/
def ofList (members : List (String × Value)) : Members :=
  members.foldl (fun acc m => acc.insert m.1 m.2) []

/-- The value of a key. -/
def get? (members : Members) (key : String) : Option Value :=
  (members.find? (·.1 == key)).map (·.2)

/-- The keys in order. -/
def keys (members : Members) : List String := members.map (·.1)

/-- The values in the order of their keys. -/
def values (members : Members) : List Value := members.map (·.2)

example : (ofList [("b", .null), ("a", .bool true), ("b", .bool false)]).keys = ["a", "b"] := by
  decide +kernel

end Members

namespace Value

/-- The integer as a value. -/
def ofInt (i : Int) : Value := .number (.ofInt i)

/-- An object from members in any order. -/
def ofMembers (members : List (String × Value)) : Value := .object (Members.ofList members)

/-- The text or null. -/
def ofText? : Option String → Value
  | some s => .string s
  | none => .null

/-- The value null. -/
def isNull : Value → Bool
  | null => true
  | _ => false

/-- A number of either kind. -/
def isNumber : Value → Bool
  | number _ => true
  | _ => false

/-- A string. -/
def isString : Value → Bool
  | string _ => true
  | _ => false

/-- The text of a string. -/
def string? : Value → Option String
  | string s => some s
  | _ => none

theorem string?_eq_some_iff {v : Value} {s : String} : v.string? = some s ↔ v = .string s := by
  cases v with
  | string t => rw [string?, Option.some.injEq, string.injEq]
  | _ => exact ⟨nofun, nofun⟩

/-- The number of a number. -/
def number? : Value → Option Number
  | number n => some n
  | _ => none

/-- The truth value of a truth value. -/
def bool? : Value → Option Bool
  | bool b => some b
  | _ => none

/-- The items of an array. -/
def array? : Value → Option (List Value)
  | array items => some items
  | _ => none

/-- The members of an object. -/
def object? : Value → Option Members
  | object members => some members
  | _ => none

/-- The integer of a signed word. -/
def int64? (v : Value) : Option Int := v.number?.bind Number.int64?

/-- The member of an object. -/
def member? (v : Value) (key : String) : Option Value := v.object?.bind (·.get? key)

/-- The item of an array. -/
def item? (v : Value) (index : Nat) : Option Value := v.array?.bind (·[index]?)

mutual
/-- Structural equality, numbers being the same as `Number.same` says. -/
def same : Value → Value → Bool
  | null, null => true
  | bool a, bool b => a == b
  | number a, number b => a.same b
  | string a, string b => a == b
  | array as, array bs => sameItems as bs
  | object as, object bs => sameMembers as bs
  | _, _ => false

def sameItems : List Value → List Value → Bool
  | [], [] => true
  | a :: as, b :: bs => same a b && sameItems as bs
  | _, _ => false

def sameMembers : List (String × Value) → List (String × Value) → Bool
  | [], [] => true
  | (k, a) :: as, (l, b) :: bs => k == l && same a b && sameMembers as bs
  | _, _ => false
end

end Value

end IndexPlanner.Json

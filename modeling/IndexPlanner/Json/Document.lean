import IndexPlanner.Json.Value

/-! The tree of a text as it was written: members in their written order, repeats included. Where
the text is well formed but spells no value, and where it stops being well formed, the tree says
so, and what was read before that place is kept. -/
namespace IndexPlanner.Json

/-- A written tree. A member's key is absent when its text spells no string. -/
inductive Document where
  | null
  | bool (b : Bool)
  | number (n : Number)
  | string (s : String)
  | array (items : List Document)
  | object (members : List (Option String × Document))
  /-- well formed, but without a value: a number out of range, half of a surrogate pair, or a
  container nested too deeply -/
  | unreadable
  /-- the text is not well formed from here on -/
  | broken
  deriving Inhabited, Repr

namespace Document

mutual
/-- A value as a tree. -/
def ofValue : Value → Document
  | .null => null
  | .bool b => bool b
  | .number n => number n
  | .string s => string s
  | .array items => array (ofItems items)
  | .object members => object (ofMembers members)

def ofItems : List Value → List Document
  | [] => []
  | v :: vs => ofValue v :: ofItems vs

def ofMembers : List (String × Value) → List (Option String × Document)
  | [] => []
  | (k, v) :: rest => (some k, ofValue v) :: ofMembers rest
end

mutual
/-- The value of a tree that is readable throughout. -/
def value? : Document → Option Value
  | null => some .null
  | bool b => some (.bool b)
  | number n => some (.number n)
  | string s => some (.string s)
  | array items => (items? items).map .array
  | object members => (members? members).map .ofMembers
  | unreadable => none
  | broken => none

def items? : List Document → Option (List Value)
  | [] => some []
  | d :: ds => do
    let v ← value? d
    let vs ← items? ds
    return v :: vs

def members? : List (Option String × Document) → Option (List (String × Value))
  | [] => some []
  | (none, _) :: _ => none
  | (some k, d) :: rest => do
    let v ← value? d
    let vs ← members? rest
    return (k, v) :: vs
end

mutual
/-- Well formed throughout, readable or not. -/
def isIntact : Document → Bool
  | array items => areItemsIntact items
  | object members => areMembersIntact members
  | broken => false
  | _ => true

def areItemsIntact : List Document → Bool
  | [] => true
  | d :: ds => isIntact d && areItemsIntact ds

def areMembersIntact : List (Option String × Document) → Bool
  | [] => true
  | (_, d) :: rest => isIntact d && areMembersIntact rest
end

end Document

end IndexPlanner.Json

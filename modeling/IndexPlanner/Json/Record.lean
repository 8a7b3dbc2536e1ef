import IndexPlanner.Json.Document

/-! Records with named fields in a written tree: an object with a member for each field, or an array
with the fields in their order. -/
namespace IndexPlanner.Json.Document

/-- The content of the first member with the given key. -/
def content? (members : List (Option String × Document)) (name : String) : Option Document :=
  (members.find? (·.1 == some name)).map (·.2)

/-- Whether the members can be those of a record: every key spells a name, what belongs to no field
is well formed, and no field is given twice. -/
def isRecord (names : List String) (members : List (Option String × Document)) : Bool :=
  members.all (fun m => match m.1 with
    | some k => names.contains k || m.2.isIntact
    | none => false) &&
  names.all fun name => members.countP (·.1 == some name) ≤ 1

/-- The contents of the fields in the order of their names. A field without a member is missing;
so are the last fields of an array that is too short. -/
def fields? (names : List String) : Document → Option (List (Option Document))
  | object members =>
    if isRecord names members then some (names.map (content? members)) else none
  | array items =>
    if items.length ≤ names.length then
      some (items.map some ++ List.replicate (names.length - items.length) none)
    else none
  | _ => none

/-- The string of a tree. -/
def string? : Document → Option String
  | string s => some s
  | _ => none

/-- The truth value of a tree. -/
def bool? : Document → Option Bool
  | bool b => some b
  | _ => none

/-- The number of a tree. -/
def number? : Document → Option Number
  | number n => some n
  | _ => none

/-- The integer of a signed word. -/
def int64? (d : Document) : Option Int := d.number?.bind Number.int64?

/-- The content of a field that has a default. -/
def orDefault {α : Type} (default : α) (read : Document → Option α) : Option Document → Option α
  | some d => read d
  | none => some default

/-- A content that may be absent: null stands for nothing. -/
def optional? {α : Type} (read : Document → Option α) : Document → Option (Option α)
  | null => some none
  | d => (read d).map some

end IndexPlanner.Json.Document

import IndexPlanner.Json.Reader
import IndexPlanner.Json.Record
import IndexPlanner.Qualifier.Basic

/-! Qualifiers as documents. A node is an object with a single member that names its kind; a leaf
is a record of its parts. What is read is checked leaf by leaf, but groups and keys are not. -/
namespace IndexPlanner

open Json (Document Value)

/-- Why a document is not a qualifier: it has another form, or holds a malformed leaf. -/
inductive DecodeError where
  | malformed
  | invalid (error : QualifierError)
  deriving DecidableEq, Repr

/-- Where a document comes from. In a text the content of a node is read before it is known
whether the node ends there; of a value that is known at once. -/
inductive Source where
  | value
  | text
  deriving DecidableEq, Repr

namespace DecodeError

/-- Demands a content. -/
def require {α : Type} : Option α → Except DecodeError α
  | some a => .ok a
  | none => .error .malformed

end DecodeError

open DecodeError (require)

namespace Operation

/-- An operation by its name, as a string or as the key of a single null. -/
def decode? : Document → Option Operation
  | .string s => ofName? s
  | .object [(some s, .null)] => ofName? s
  | _ => none

end Operation

namespace Leaf

/-- The parts of a leaf in their order. -/
def fieldNames : List String := ["field", "operation", "ignore_case", "value", "value2"]

/-- A leaf as it stands, without a check of its parts. A second operand that is null is none. -/
def ofFields? : List (Option Document) → Option Leaf
  | [some field, some operation, ignoreCase, some operand, upper] => do
    let field ← field.string?
    let operation ← Operation.decode? operation
    let ignoreCase ← Document.orDefault false Document.bool? ignoreCase
    let operand ← operand.value?
    let upper ← Document.orDefault none (Document.optional? Document.value?) upper
    return { field, operation, ignoreCase, operand, upper }
  | _ => none

/-- A leaf that is well formed. -/
def decode (d : Document) : Except DecodeError Leaf := do
  let l ← require ((d.fields? fieldNames).bind ofFields?)
  match l.validate with
  | .ok () => .ok l
  | .error e => .error (.invalid e)

/-- The leaf as a value. -/
def toValue (l : Leaf) : Value :=
  .ofMembers ([("field", .string l.field), ("operation", .string l.operation.name),
    ("ignore_case", .bool l.ignoreCase), ("value", l.operand)] ++
    match l.upper with
    | some v => [("value2", v)]
    | none => [])

end Leaf

namespace Qualifier

/-- The junction that the key of a node names. -/
def junction? : String → Option Junction
  | "and" => some .and
  | "or" => some .or
  | _ => none

/-- The key of a group's node. -/
def junctionKey : Junction → String
  | .and => "and"
  | .or => "or"

/-- A node without children. -/
def decodeSingle (kind : String) (content : Document) : Except DecodeError Qualifier :=
  match kind with
  | "key" => (require content.value?).map key
  | "field" => (Leaf.decode content).map leaf
  | _ => .error .malformed

mutual
/-- The qualifier that the tree stands for; the first fault in written order is reported. -/
def decode (source : Source) : Document → Except DecodeError Qualifier
  | .object ((some kind, content) :: rest) =>
    if source = .value ∧ !rest.isEmpty then .error .malformed
    else do
      let q ← match junction? kind, content with
        | some j, .array items => (decodeItems source items).map (group j)
        | some _, _ => .error .malformed
        | none, content => decodeSingle kind content
      if rest.isEmpty then .ok q else .error .malformed
  | _ => .error .malformed

def decodeItems (source : Source) : List Document → Except DecodeError (List Qualifier)
  | [] => .ok []
  | d :: ds => do
    let q ← decode source d
    let qs ← decodeItems source ds
    return q :: qs
end

/-- The qualifiers of an array. -/
def decodeList (source : Source) : Document → Except DecodeError (List Qualifier)
  | .array items => decodeItems source items
  | _ => .error .malformed

/-- Decodes the tree of a whole text. -/
def readWith {α : Type} (decode : Document → Except DecodeError α) (s : String) :
    Except DecodeError α := do
  let a ← decode (Document.read s).1
  if (Document.read s).2 then .error .malformed else .ok a

/-- The qualifier of a value. -/
def ofValue (v : Value) : Except DecodeError Qualifier := decode .value (.ofValue v)

/-- The qualifier of a text. -/
def read (s : String) : Except DecodeError Qualifier := readWith (decode .text) s

/-- The qualifiers of a text. -/
def readList (s : String) : Except DecodeError (List Qualifier) := readWith (decodeList .text) s

mutual
/-- The tree as a value. -/
def toValue : Qualifier → Value
  | key v => .object [("key", v)]
  | leaf l => .object [("field", l.toValue)]
  | group j qs => .object [(junctionKey j, .array (toValues qs))]

def toValues : List Qualifier → List Value
  | [] => []
  | q :: qs => toValue q :: toValues qs
end

end Qualifier

end IndexPlanner

import IndexPlanner.Json.Printer
import IndexPlanner.Qualifier.Operation
import IndexPlanner.Text.Blank
import IndexPlanner.Text.Pieces

/-! Qualifiers: conditions on the bins of a record, joined by AND and OR, and the condition on a
record's key. A tree may be malformed; `validate` finds its first fault. -/
namespace IndexPlanner

open Json (Value)

/-- A condition on one bin: an operation with one operand, or two for a range. -/
structure Leaf where
  field : String
  operation : Operation
  ignoreCase : Bool := false
  operand : Value
  upper : Option Value := none
  deriving Repr

/-- A tree of conditions. -/
inductive Qualifier where
  | key (value : Value)
  | leaf (leaf : Leaf)
  | group (junction : Junction) (children : List Qualifier)
  deriving Repr, Inhabited

/-- What is wrong with a qualifier. -/
inductive QualifierError where
  | emptyField (operation : Operation)
  | arity (operation : Operation) (field : String) (actual : Nat)
  | groupOnField (operation : Operation) (field : String)
  | emptyGroup (junction : Junction)
  | nullKey
  deriving DecidableEq, Repr

namespace QualifierError

/-- The text of the error. -/
def message : QualifierError → String
  | emptyField op => s!"{op.name} qualifier has an empty field name"
  | arity op field actual =>
    s!"{op.name} on field '{field}' expects {op.arity} operand(s), got {actual}"
  | groupOnField op field => s!"composite operation {op.name} cannot target field '{field}'"
  | emptyGroup j => s!"{j.name} qualifier requires at least one child"
  | nullKey => "key qualifier has a null key"

/-- The name by which callers tell errors apart. -/
def code : QualifierError → String
  | emptyField _ => "AERO_QUALIFIER_EMPTY_FIELD"
  | arity .. => "AERO_QUALIFIER_ARITY"
  | groupOnField .. => "AERO_QUALIFIER_COMPOSITE_ON_FIELD"
  | emptyGroup _ => "AERO_QUALIFIER_EMPTY_COMPOSITE"
  | nullKey => "AERO_QUALIFIER_NULL_KEY"

end QualifierError

namespace Leaf

/-- The number of operands present. -/
def operandCount (l : Leaf) : Nat := if l.upper.isSome then 2 else 1

/-- Ignoring case means something for a string operand only. -/
def isCaseInsensitive (l : Leaf) : Bool := l.ignoreCase && l.operand.isString

/-- The first fault: a blank field, the operation of a group, or a wrong number of operands. -/
def validate (l : Leaf) : Except QualifierError Unit :=
  if Text.isBlankText l.field then .error (.emptyField l.operation)
  else if l.operation.isGroup then .error (.groupOnField l.operation l.field)
  else if l.operandCount ≠ l.operation.arity then
    .error (.arity l.operation l.field l.operandCount)
  else .ok ()

/-- A leaf from its operands, checked. -/
def ofOperands (field : String) (operation : Operation) (operands : List Value) :
    Except QualifierError Leaf :=
  if operation.isGroup then .error (.groupOnField operation field)
  else if operands.length ≠ operation.arity then
    .error (.arity operation field operands.length)
  else
    let l : Leaf :=
      { field, operation, operand := operands.head?.getD .null, upper := operands[1]? }
    l.validate.map fun _ => l

/-- The leaf as a text. -/
def text (l : Leaf) : String :=
  l.field ++ " " ++ l.operation.name ++ " " ++ l.operand.text ++
    (match l.upper with
     | some v => " " ++ v.text
     | none => "") ++
    if l.ignoreCase then " (ignore case)" else ""

end Leaf

namespace Junction

/-- Texts joined in parentheses. -/
def enclose (j : Junction) (texts : List String) : String :=
  "(" ++ Text.joinWith (" " ++ j.name ++ " ") texts ++ ")"

end Junction

namespace Qualifier

/-- A condition with one operand. -/
def unary (operation : Operation) (field : String) (operand : Value) : Qualifier :=
  leaf { field, operation, operand }

/-- A range. -/
def range (operation : Operation) (field : String) (low high : Value) : Qualifier :=
  leaf { field, operation, operand := low, upper := some high }

/-- The same condition, but strings are compared without regard to case. A group or a key stays
as it is. -/
def ignoringCase : Qualifier → Qualifier
  | leaf l => leaf { l with ignoreCase := true }
  | q => q

/-- The operation of the root; the condition on a key is an equality. -/
def operation : Qualifier → Operation
  | key _ => .compare .equal
  | leaf l => l.operation
  | group j _ => .group j

/-- The bin that a leaf looks at. -/
def field? : Qualifier → Option String
  | leaf l => some l.field
  | _ => none

/-- The children of a group. -/
def children : Qualifier → List Qualifier
  | group _ qs => qs
  | _ => []

mutual
/-- Whether there is a condition on the key anywhere in the tree. -/
def containsKey : Qualifier → Bool
  | key _ => true
  | leaf _ => false
  | group _ qs => anyContainsKey qs

def anyContainsKey : List Qualifier → Bool
  | [] => false
  | q :: qs => containsKey q || anyContainsKey qs
end

mutual
/-- The first fault of the tree: a null key, a group without children, or that of a leaf. -/
def validate : Qualifier → Except QualifierError Unit
  | key v => if v.isNull then .error .nullKey else .ok ()
  | leaf l => l.validate
  | group j [] => .error (.emptyGroup j)
  | group _ (q :: qs) => do
    validate q
    validateAll qs

/-- The first fault of the trees, from left to right. -/
def validateAll : List Qualifier → Except QualifierError Unit
  | [] => .ok ()
  | q :: qs => do
    validate q
    validateAll qs
end

mutual
/-- The tree as a text. -/
def text : Qualifier → String
  | key v => "KEY = " ++ v.text
  | leaf l => l.text
  | group j qs => j.enclose (texts qs)

def texts : List Qualifier → List String
  | [] => []
  | q :: qs => text q :: texts qs
end

end Qualifier

end IndexPlanner

import IndexPlanner.Qualifier.Basic
import IndexPlanner.Scope

/-! Why no plan can be made of a query. -/
namespace IndexPlanner

/-- Why an operand does not suit its operation. -/
inductive Unsuitable where
  | notOrdered
  | notList
  | notText
  | notRegion
  deriving DecidableEq, Repr

/-- The reason as a text. -/
def Unsuitable.message : Unsuitable → String
  | notOrdered => "ordered comparisons need a number or string operand"
  | notList => "IN needs an array operand"
  | notText => "string operations need a string operand"
  | notRegion => "region must be a GeoJSON Polygon or AeroCircle"

/-- What is wrong with a query. -/
inductive CompileError where
  | malformed (error : QualifierError)
  | keyNotAlone
  | emptyStatement (scope : Scope)
  | unsupported (operation : Operation) (field : String) (reason : Unsuitable)
  deriving DecidableEq, Repr

namespace CompileError

/-- The text of the error. -/
def message : CompileError → String
  | malformed e => s!"malformed qualifier: {e.message}"
  | keyNotAlone => "a key qualifier must be the only top-level qualifier"
  | emptyStatement scope =>
    s!"statement on {scope.text} has neither qualifiers nor an index filter"
  | unsupported op field reason =>
    s!"{op.name} on field '{field}' cannot be evaluated: {reason.message}"

/-- The name by which callers tell errors apart. -/
def code : CompileError → String
  | malformed _ => "AERO_QUERY_MALFORMED"
  | keyNotAlone => "AERO_QUERY_KEY_NOT_ALONE"
  | emptyStatement _ => "AERO_QUERY_EMPTY_STATEMENT"
  | unsupported .. => "AERO_QUERY_UNSUPPORTED_OPERAND"

end CompileError

end IndexPlanner

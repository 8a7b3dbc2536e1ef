/-! Where records live: a namespace, and within it a set. -/
namespace IndexPlanner

/-- A namespace and one of its sets, or the whole namespace. -/
structure Scope where
  space : String
  set : Option String := none
  deriving DecidableEq, Repr, Inhabited

/-- The scope as a text, a star standing for all sets. -/
def Scope.text (s : Scope) : String := s.space ++ "/" ++ s.set.getD "*"

end IndexPlanner

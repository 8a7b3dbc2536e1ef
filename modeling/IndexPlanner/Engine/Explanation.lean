import IndexPlanner.Engine.Basic

/-! What the engine would do with a query, in words. -/
namespace IndexPlanner

open Json (Document Value)

/-- The fate of a query: how it would reach its records, or why it is refused. -/
inductive Verdict where
  | accepted (path : AccessPath) (key filter pushed residual : Option String)
  | rejected (code reason : String)
  deriving DecidableEq, Repr

/-- The verdict on a query of a scope. -/
structure Explanation where
  scope : Scope
  verdict : Verdict
  deriving DecidableEq, Repr

namespace Verdict

/-- The verdict on a plan that may be run. -/
def ofPlan (p : Plan) : Verdict :=
  match p with
  | .lookup key => accepted p.accessPath (some key.userKey.text) none none none
  | .scan s => accepted p.accessPath none (s.filter.map IndexFilter.text)
      (s.pushed.map Leaf.text) (s.predicate.map Predicate.text)

/-- The lines that describe the verdict. -/
def text : Verdict → String
  | accepted path key filter pushed residual =>
    "Status: ACCEPTED\nAccess Path: " ++ path.name ++ "\n" ++ line "Key: " key ++
      line "Index Filter: " filter ++ line "Pushed Qualifier: " pushed ++
      "Residual: " ++ residual.getD "none" ++ "\n"
  | rejected code reason =>
    "Status: REJECTED\nCode: " ++ code ++ "\nReason: " ++ reason ++ "\n"
where
  /-- A line, if there is something to say. -/
  line (label : String) : Option String → String
    | some s => label ++ s ++ "\n"
    | none => ""

end Verdict

namespace Explanation

/-- The lines that describe the verdict and what it is about. -/
def text (e : Explanation) : String := "Target: " ++ e.scope.text ++ "\n" ++ e.verdict.text

/-- All parts by name, absent ones null. -/
def document (e : Explanation) : Document :=
  let row (accepted : Bool) (path key filter pushed residual code reason : Option String) :=
    Document.object
      [(some "accepted", .bool accepted), (some "namespace", .string e.scope.space),
       (some "set", cell e.scope.set), (some "access_path", cell path), (some "key", cell key),
       (some "index_filter", cell filter), (some "pushed_qualifier", cell pushed),
       (some "residual", cell residual), (some "rejection_code", cell code),
       (some "rejection_reason", cell reason)]
  match e.verdict with
  | .accepted path key filter pushed residual =>
    row true (some path.name) key filter pushed residual none none
  | .rejected code reason => row false none none none none none (some code) (some reason)
where
  /-- A text or null. -/
  cell (s : Option String) : Document := .ofValue (.ofText? s)

end Explanation

/-- What would become of a query. The store is not asked. -/
def Engine.explain (e : Engine) (scope : Scope) (filter : Option IndexFilter)
    (qs : List Qualifier) : Explanation :=
  ⟨scope, match e.plan scope filter qs with
    | .ok p => .ofPlan p
    | .error err => .rejected err.code err.message⟩

end IndexPlanner

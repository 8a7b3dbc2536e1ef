import IndexPlanner.Text.CaseFold

/-! Literal texts looked for in strings. Nothing in the text has a meaning of its own: a string
matches when it holds the characters of the text, in their order and at the place asked for. -/
namespace IndexPlanner

/-- Where in a string the text has to be. -/
inductive Place where
  | whole
  | atStart
  | atEnd
  | anywhere
  deriving DecidableEq, Repr

/-- A text, its place, and whether letters count as the same in either case. -/
structure Pattern where
  place : Place
  text : String
  ignoreCase : Bool
  deriving DecidableEq, Repr

namespace Pattern

/-- Whether the second row of characters occurs in the first. -/
def occursIn (sought : List Char) : List Char → Bool
  | [] => sought.isEmpty
  | c :: cs => sought.isPrefixOf (c :: cs) || occursIn sought cs

/-- Whether the text is found at the place. -/
def found (place : Place) (sought cs : List Char) : Bool :=
  match place with
  | .whole => sought == cs
  | .atStart => sought.isPrefixOf cs
  | .atEnd => sought.isSuffixOf cs
  | .anywhere => occursIn sought cs

/-- The characters as they are compared. -/
def normal (p : Pattern) (s : String) : List Char :=
  if p.ignoreCase then s.toList.map Text.foldCase else s.toList

/-- Whether the string matches. -/
def accepts (p : Pattern) (s : String) : Bool := found p.place (p.normal p.text) (p.normal s)

/-- The characters that stand for themselves only behind a backslash in a written pattern. -/
def isSpecial (c : Char) : Bool :=
  c ∈ ['\\', '.', '+', '*', '?', '(', ')', '|', '[', ']', '\x7b', '\x7d', '^', '$', '#', '&',
    '-', '~']

/-- The text with a backslash before each special character. -/
def escaped (s : String) : String :=
  String.ofList (s.toList.flatMap fun c => if isSpecial c then ['\\', c] else [c])

/-- The pattern in its written form, with marks for the ends of the string. -/
def written (p : Pattern) : String :=
  match p.place with
  | .whole => "^" ++ escaped p.text ++ "$"
  | .atStart => "^" ++ escaped p.text
  | .atEnd => escaped p.text ++ "$"
  | .anywhere => escaped p.text

example : (Pattern.mk .whole "a.b" false).written = "^a\\.b$" := by decide
example : (Pattern.mk .anywhere "SS" true).accepts "miſs" = true := by decide +kernel

end Pattern

end IndexPlanner

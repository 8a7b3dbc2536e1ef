import IndexPlanner.Regex.CharClass
import IndexPlanner.Text.Letters

/-! Which texts are regular expressions: alternatives between bars, repetitions, and groups with
names and flags. What an expression matches is not said here. A count of repetitions, or any other
part in braces, is not among the parts that can be read. -/
namespace IndexPlanner.Regex

/-- The greatest depth of an expression. -/
def depthLimit : Nat := 250

/-- The letters of the flags. -/
def flagLetters : List Char := ['i', 'm', 's', 'U', 'u', 'R', 'x']

/-- What has been read of a group: the alternatives before the last bar, the row behind it, and the
depth of the last part of the row if it can be repeated. -/
structure Body where
  alternatives : Row := {}
  row : Row := {}
  last : Option Nat := none
  deriving DecidableEq, Repr

namespace Body

/-- One part more. -/
def add (b : Body) (depth : Nat) : Body := { b with row := b.row.add depth, last := some depth }

/-- Flags are a part that cannot be repeated. -/
def addFlags (b : Body) : Body := { b with row := b.row.add 0, last := none }

/-- A bar ends an alternative. -/
def bar (b : Body) : Body := { alternatives := b.alternatives.add b.row.height }

/-- Repeats the last part. -/
def repeated? (b : Body) : Option Body :=
  b.last.map fun depth =>
    { b with row := { b.row with depth := max b.row.depth (depth + 1) }, last := some (depth + 1) }

/-- The depth of the body as one part. -/
def height (b : Body) : Nat := (b.alternatives.add b.row.height).height

end Body

/-- What has been read: the mode and the body of the innermost group, those of the groups around
it, and the names of all groups. -/
structure Progress where
  mode : Mode := {}
  body : Body := {}
  outer : List (Mode × Body) := []
  names : List (List Char) := []

namespace Progress

/-- Adds a part. -/
def add (p : Progress) (depth : Nat) : Progress := { p with body := p.body.add depth }

/-- Opens a group that is read in a mode of its own. -/
def enter (p : Progress) (mode : Mode) : Progress :=
  { p with mode, body := {}, outer := (p.mode, p.body) :: p.outer }

/-- Closes the innermost group. -/
def leave? (p : Progress) : Option Progress :=
  match p.outer with
  | [] => none
  | (mode, body) :: outer =>
    some { p with mode, body := body.add (p.body.height + 1), outer }

end Progress

/-- Flags and whether they are set or cleared. -/
abbrev Flags := List (Char × Bool)

/-- The mode with the flags. -/
def Mode.withFlags (m : Mode) (flags : Flags) : Mode :=
  { unicode := (flags.lookup 'u').getD m.unicode, spaced := (flags.lookup 'x').getD m.spaced }

/-- Reads flags up to a colon, behind which a group begins, or a bracket. Those behind a minus are
cleared; each stands once, and so does the minus, which is not the last sign. -/
def readFlags (flags : Flags) (cleared dangling : Bool) :
    List Char → Option (Flags × Bool × List Char)
  | [] => none
  | ':' :: rest => if dangling then none else some (flags, true, rest)
  | ')' :: rest => if dangling then none else some (flags, false, rest)
  | '-' :: rest => if cleared then none else readFlags flags true true rest
  | c :: rest =>
    if c ∈ flagLetters ∧ (flags.lookup c).isNone then
      readFlags ((c, !cleared) :: flags) cleared false rest
    else none

/-- Whether the characters can be the name of a group. -/
def isName : List Char → Bool
  | [] => false
  | c :: cs => (c == '_' || Text.isAlphabetic c) &&
      cs.all fun c => c ∈ ['_', '.', '[', ']'] || Text.isAlphanumeric c

/-- Reads the name of a group, which no other group has, and enters the group. -/
def readName (p : Progress) (cs : List Char) : Option (Progress × List Char) :=
  let name := cs.takeWhile (· != '>')
  match cs.dropWhile (· != '>') with
  | '>' :: rest =>
    if isName name ∧ name ∉ p.names then
      some (({ p with names := name :: p.names }).enter p.mode, rest)
    else none
  | _ => none

/-- Reads what makes a group a special one, behind its opening bracket. -/
def readGroup (p : Progress) : List Char → Option (Progress × List Char)
  | '?' :: 'P' :: '<' :: rest => readName p rest
  | '?' :: '<' :: rest => readName p rest
  | '?' :: rest => do
    let (flags, opens, rest) ← readFlags [] false false rest
    let mode := p.mode.withFlags flags
    if opens then some (p.enter mode, rest)
    else if flags.isEmpty then none
    else some ({ p with mode, body := p.body.addFlags }, rest)
  | rest => some (p.enter p.mode, rest)

/-- Adds an atom that has a meaning in the mode. -/
def addAtom (p : Progress) (a : Atom) : Option Progress :=
  if a.isAllowed p.mode then some (p.add 0) else none

/-- Reads one part or the sign of a group. At the end every group has been closed. -/
def step (p : Progress) (cs : List Char) : Option (Progress × List Char ⊕ Bool) :=
  match p.mode.skip cs with
  | [] => some (.inr (p.outer.isEmpty && p.body.height ≤ depthLimit))
  | '(' :: rest => (readGroup p (p.mode.skip rest)).map .inl
  | ')' :: rest => p.leave?.map fun p => .inl (p, rest)
  | '|' :: rest => some (.inl ({ p with body := p.body.bar }, rest))
  | '[' :: rest => (CharClass.read p.mode rest).map fun (depth, rest) => .inl (p.add depth, rest)
  | '\\' :: rest => do
    let (a, rest) ← Atom.readEscape p.mode rest
    let p ← addAtom p a
    return .inl (p, rest)
  | c :: rest =>
    if c ∈ ['?', '*', '+'] then
      let rest := if rest.head? = some '?' then rest.tail else rest
      p.body.repeated?.map fun body => .inl ({ p with body }, rest)
    else
      let atom? : Option Atom := match c with
        | '\x7b' => none
        | '.' => some .any
        | '^' => some (.edge false)
        | '$' => some (.edge false)
        | c => some (.char c false)
      (atom?.bind (addAtom p)).map fun p => .inl (p, rest)

/-- Whether the characters are a regular expression. -/
def isExpression (cs : List Char) : Bool := (Text.repeatStep step {} cs).getD false

example : isExpression "(?i)x|(?P<n>a**)[^b-d&&[:alpha:]]".toList = true := by decide +kernel
example : isExpression "a)".toList = false ∧ isExpression "?".toList = false ∧
    isExpression "\\b".toList = false ∧ isExpression "(?-u)\\b".toList = true := by
  decide +kernel

end IndexPlanner.Regex

import IndexPlanner.Regex.Atom
import IndexPlanner.Regex.Row
import IndexPlanner.Text.Steps

/-! Classes of characters in square brackets: characters, ranges, kinds and classes within classes,
also with operators between them. -/
namespace IndexPlanner.Regex

namespace CharClass

/-- An open class: the depth of what stands before the last operator, the items behind it, and
whether hyphens and a closing bracket still stand for themselves. -/
structure Level where
  left : Option Nat := none
  items : Row := {}
  isOpening : Bool := false
  deriving DecidableEq, Repr

namespace Level

/-- One item more. -/
def add (l : Level) (depth : Nat) : Level := { l with items := l.items.add depth }

/-- The depth of all items as one part. -/
def height (l : Level) : Nat :=
  match l.left with
  | none => l.items.height
  | some left => max left l.items.height + 1

/-- The level behind an operator. -/
def operator (l : Level) : Level := { left := some l.height }

end Level

/-- The names of the classes of ASCII characters. -/
def asciiNames : List String :=
  ["alnum", "alpha", "ascii", "blank", "cntrl", "digit", "graph", "lower", "print", "punct",
   "space", "upper", "word", "xdigit"]

/-- Reads a class by its name between colons, behind its opening bracket: whether it is negated,
and what follows. -/
def readNamed? : List Char → Option (Bool × List Char)
  | ':' :: cs =>
    let (negated, cs) := match cs with
      | '^' :: cs => (true, cs)
      | cs => (false, cs)
    match cs.dropWhile (· != ':') with
    | ':' :: ']' :: rest =>
      if asciiNames.contains (.ofList (cs.takeWhile (· != ':'))) then some (negated, rest) else none
    | _ => none
  | _ => none

/-- Opens a class behind its bracket. A class that is not negated may be read by bytes. -/
def readOpening (m : Mode) (cs : List Char) : Option (Level × List Char) :=
  match m.skip cs with
  | '^' :: rest => if m.unicode then some ({ isOpening := true }, rest) else none
  | rest => some ({ isOpening := true }, rest)

/-- Reads a single sign or an escape. -/
def readItem (m : Mode) : List Char → Option (Atom × List Char)
  | [] => none
  | '\\' :: rest => Atom.readEscape m rest
  | c :: rest => some (.char c false, rest)

/-- Reads a range, or an item that begins none. A hyphen before a bracket or another hyphen makes
no range; in a range no character stands before its first one. -/
def readRange (m : Mode) (cs : List Char) : Option (List Char) := do
  let (first, rest) ← readItem m cs
  if !first.isAllowedInClass m then none
  else match m.skip rest with
    | [] => none
    | '-' :: behind =>
      if m.peek behind = some ']' ∨ m.peek behind = some '-' then some ('-' :: behind)
      else
        let (last, rest) ← readItem m (m.skip behind)
        match first, last with
        | .char low _, .char high _ =>
          if low ≤ high ∧ last.isAllowedInClass m then some rest else none
        | _, _ => none
    | rest => some rest

/-- Open classes, the innermost first. -/
abbrev State := Level × List Level

/-- Reads one item, operator or bracket. At the last bracket the depth of the class is known. -/
def step (m : Mode) (s : State) (cs : List Char) :
    Option (State × List Char ⊕ Nat × List Char) :=
  let (level, outer) := s
  let inside := { level with isOpening := false }
  match m.skip cs with
  | [] => none
  | '-' :: rest =>
    if level.isOpening then some (.inl ((level.add 0, outer), rest))
    else if rest.head? = some '-' then some (.inl ((level.operator, outer), rest.tail))
    else (readRange m ('-' :: rest)).map fun rest => .inl ((level.add 0, outer), rest)
  | ']' :: rest =>
    if level.isOpening ∧ level.items.count = 0 then some (.inl ((inside.add 0, outer), rest))
    else match outer with
      | [] => some (.inr (level.height + 1, rest))
      | parent :: outer => some (.inl ((parent.add (level.height + 1), outer), rest))
  | '[' :: rest =>
    match readNamed? rest with
    | some (negated, rest) =>
      if m.unicode || !negated then some (.inl ((inside.add 0, outer), rest)) else none
    | none => (readOpening m rest).map fun (opened, rest) => .inl ((opened, inside :: outer), rest)
  | '&' :: '&' :: rest => some (.inl ((inside.operator, outer), rest))
  | '~' :: '~' :: rest => some (.inl ((inside.operator, outer), rest))
  | cs => (readRange m cs).map fun rest => .inl ((inside.add 0, outer), rest)

/-- Reads a class behind its opening bracket: its depth and what follows it. -/
def read (m : Mode) (cs : List Char) : Option (Nat × List Char) := do
  let (level, rest) ← readOpening m cs
  Text.repeatStep (step m) (level, []) rest

example : read {} "]a-z]".toList = some (2, []) := by decide +kernel
example : read {} "z-a]".toList = none ∧ read {} "a".toList = none := by decide +kernel

end CharClass

end IndexPlanner.Regex

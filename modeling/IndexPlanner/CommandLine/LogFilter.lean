import IndexPlanner.Predicate.MapKey
import IndexPlanner.Regex.Basic
import IndexPlanner.Text.Blank
import IndexPlanner.Text.Digits
import IndexPlanner.Text.Letters
import IndexPlanner.Text.Pieces

/-! Log filters: directives between commas. A directive is a level, or a target, a span in square
brackets, or both, with a level behind an equality sign; a span may name a field in braces, and a
value that the field has. Blanks around a directive are passed over, but they still count where its
parts are cut out, so that a part may begin too early. -/
namespace IndexPlanner.LogFilter

open Text

/-- The names of the levels. -/
def levels : List String := ["error", "warn", "info", "debug", "trace", "off"]

/-- Whether a text says a level: by name in any case, by a number up to five, or not at all. -/
def isLevel (cs : List Char) : Bool :=
  let digits := match cs with
    | '+' :: rest => rest
    | cs => cs
  cs.isEmpty || levels.contains (asciiLower (.ofList cs)) ||
    (!digits.isEmpty && digits.all Char.isDigit && natOfDigits digits ≤ 5)

/-- Whether a text says which values a field may have: a number, or a regular expression. -/
def isValue (cs : List Char) : Bool := (MapKey.decimal? cs).isSome || Regex.isExpression cs

/-- Whether a text says which field a span has: a name, and a value behind an equality sign. What
stands behind a second equality sign does not count. -/
def isField (cs : List Char) : Bool :=
  match pieces '=' cs with
  | _ :: value :: _ => isValue value
  | _ => !cs.isEmpty

/-- What is wrong with a filter: a directive is none, or it is cut inside a character. -/
inductive Fault where
  | invalid
  | cutInside
  deriving DecidableEq, Repr

/-- The characters behind the first `n` bytes, unless these end inside a character. -/
def dropBytes : Nat → List Char → Except Fault (List Char)
  | 0, cs => .ok cs
  | _ + 1, [] => .ok []
  | n + 1, c :: cs =>
    if c.utf8Size ≤ n + 1 then dropBytes (n + 1 - c.utf8Size) cs else .error .cutInside
termination_by _ cs => cs.length

/-- The characters of the first `n` bytes, unless these end inside a character. -/
def takeBytes : Nat → List Char → Except Fault (List Char)
  | 0, _ => .ok []
  | _ + 1, [] => .ok []
  | n + 1, c :: cs =>
    if c.utf8Size ≤ n + 1 then (takeBytes (n + 1 - c.utf8Size) cs).map (c :: ·)
    else .error .cutInside
termination_by _ cs => cs.length

/-- The part of a text from one place to another, in bytes. -/
def cut (text : List Char) (first last : Nat) : Except Fault (List Char) := do
  takeBytes (last - first) (← dropBytes first text)

/-- Demands that a part of a directive is what it has to be. -/
def require (b : Bool) : Except Fault Unit := if b then .ok () else .error .invalid

/-- The part of a directive that is being read, with the place where it begins. -/
inductive Part where
  | start
  | target
  | span (first : Nat)
  | field (first : Nat)
  | fieldEnd
  | spanEnd
  | level (first : Nat)
  deriving DecidableEq, Repr

/-- Characters that may begin a target or the name of a level. -/
def mayBegin (c : Char) : Bool := c ∈ ['-', ':', '_'] || isAlphanumeric c

/-- The part after one more character, which stands at a place and is one byte long if it ends
a part. -/
def Part.step (directive : List Char) (place : Nat) : Part → Char → Except Fault Part
  | .start, '[' => .ok (.span (place + 1))
  | .start, c => (require (mayBegin c)).map fun _ => .target
  | .target, '=' => (cut directive 0 place).map fun _ => .level (place + 1)
  | .target, '[' => (cut directive 0 place).map fun _ => .span (place + 1)
  | .target, _ => .ok .target
  | .span first, ']' => (cut directive first place).map fun _ => .spanEnd
  | .span first, '\x7b' => (cut directive first place).map fun _ => .field (place + 1)
  | .span first, _ => .ok (.span first)
  | .field first, '\x7d' => do
    require (isField (← cut directive first place))
    return .fieldEnd
  | .field first, _ => .ok (.field first)
  | .fieldEnd, ']' => .ok .spanEnd
  | .fieldEnd, _ => .error .invalid
  | .spanEnd, '=' => .ok (.level (place + 1))
  | .spanEnd, _ => .error .invalid
  | .level first, _ => .ok (.level first)

/-- The part after the characters from a place on. -/
def Part.follow (directive : List Char) (place : Nat) (p : Part) :
    List Char → Except Fault Part
  | [] => .ok p
  | c :: cs => do follow directive (place + c.utf8Size) (← p.step directive place c) cs

/-- Whether a directive may end in the part. -/
def Part.finish (directive : List Char) : Part → Except Fault Unit
  | .target => .ok ()
  | .spanEnd => .ok ()
  | .level first => do require (isLevel (← dropBytes first directive))
  | _ => .error .invalid

/-- Whether the characters form a directive. -/
def checkDirective (cs : List Char) : Except Fault Unit := do
  (← Part.start.follow cs 0 (trimChars cs)).finish cs

/-- The first fault of the directives of a filter; empty directives do not count. -/
def check (filter : String) : Except Fault Unit :=
  ((pieces ',' filter.toList).filter (!·.isEmpty)).forM checkDirective

example : (check "planner=debug,warn").isOk = true ∧ (check "planner=loud").isOk = false := by
  decide +kernel

end IndexPlanner.LogFilter

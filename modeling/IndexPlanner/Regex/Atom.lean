import IndexPlanner.Text.Blank
import IndexPlanner.Text.Digits

/-! The atoms of regular expressions: single characters, kinds of characters and places in a text,
most of them written behind a backslash. -/
namespace IndexPlanner.Regex

/-- How an expression is read: by characters or by bytes, and whether blanks and comments between
its signs are left out. -/
structure Mode where
  unicode : Bool := true
  spaced : Bool := false
  deriving DecidableEq, Repr

/-- Leaves out blanks, and comments that reach from a number sign to the end of the line. -/
def skipBlanks (inComment : Bool) : List Char → List Char
  | [] => []
  | c :: cs =>
    if inComment then skipBlanks (c != '\n') cs
    else if Text.isBlank c then skipBlanks false cs
    else if c = '#' then skipBlanks true cs
    else c :: cs

/-- Leaves out what the mode does not read. -/
def Mode.skip (m : Mode) (cs : List Char) : List Char :=
  if m.spaced then skipBlanks false cs else cs

/-- The next sign behind blanks and the sign of a comment. -/
def peekPastBlanks (inComment : Bool) : List Char → Option Char
  | [] => none
  | c :: cs =>
    if Text.isBlank c then peekPastBlanks inComment cs
    else if c = '#' ∧ !inComment then peekPastBlanks true cs
    else some c

/-- The next sign, while nothing is read yet. -/
def Mode.peek (m : Mode) (cs : List Char) : Option Char :=
  if m.spaced then peekPastBlanks false cs else cs.head?

/-- What a sign or an escape stands for. A character may be given as the number of a byte; a kind
is that of digits, blanks or the characters of words, or all others. -/
inductive Atom where
  | char (c : Char) (asByte : Bool)
  | any
  | kind (negated : Bool)
  | category
  | edge (ofWord : Bool)
  deriving DecidableEq, Repr

namespace Atom

/-- Whether the atom has a meaning in the mode. When bytes are read, no single byte beyond ASCII
may match, since it would be part of a character. When characters are read, the edges of words are
not known. -/
def isAllowed (m : Mode) : Atom → Bool
  | char c asByte => m.unicode || !asByte || c.toNat < 0x80
  | any => m.unicode
  | kind negated => m.unicode || !negated
  | category => m.unicode
  | edge ofWord => !(ofWord && m.unicode)

/-- Whether the atom has a meaning inside a class. When bytes are read, a class holds ASCII only. -/
def isAllowedInClass (m : Mode) : Atom → Bool
  | char c _ => m.unicode || c.toNat < 0x80
  | kind negated => m.unicode || !negated
  | category => m.unicode
  | _ => false

/-- Reads a number of hexadecimal digits. -/
def readHex (m : Mode) : Nat → Nat → List Char → Option (Nat × List Char)
  | 0, value, cs => some (value, cs)
  | n + 1, value, cs =>
    match m.skip cs with
    | [] => none
    | c :: rest => (Text.hexValue? c).bind fun d => readHex m n (16 * value + d) rest

/-- Reads a character given by its number. -/
def readNumbered (m : Mode) (digits : Nat) (cs : List Char) : Option (Atom × List Char) := do
  let (n, rest) ← readHex m digits 0 cs
  if n.isValidChar then some (char (Char.ofNat n) (digits = 2), rest) else none

/-- Reads the letter of a general category, in either case: others, letters, marks, numbers,
punctuation, symbols and separators. -/
def readCategory (m : Mode) (cs : List Char) : Option (Atom × List Char) :=
  match m.skip cs with
  | [] => none
  | c :: rest =>
    if c.toLower ∈ ['c', 'l', 'm', 'n', 'p', 's', 'z'] then some (category, rest) else none

/-- The control character that a letter stands for behind a backslash. -/
def control? : Char → Option Char
  | 'a' => some '\x07'
  | 'f' => some '\x0c'
  | 'n' => some '\n'
  | 'r' => some '\r'
  | 't' => some '\t'
  | 'v' => some '\x0b'
  | _ => none

/-- What a character stands for behind a backslash, when nothing further belongs to it. An ASCII
character that is no letter and no digit stands for itself. -/
def escaped? (c : Char) : Option Atom :=
  if c ∈ ['d', 's', 'w'] then some (kind false)
  else if c ∈ ['D', 'S', 'W'] then some (kind true)
  else if c ∈ ['A', 'z'] then some (edge false)
  else if c ∈ ['b', 'B', '<', '>'] then some (edge true)
  else if c.toNat < 0x80 ∧ !c.isAlphanum then some (char c false)
  else (control? c).map (char · false)

/-- Reads what stands behind a backslash. There is no reference to what a group has matched. -/
def readEscape (m : Mode) : List Char → Option (Atom × List Char)
  | [] => none
  | 'x' :: rest => readNumbered m 2 rest
  | 'u' :: rest => readNumbered m 4 rest
  | 'U' :: rest => readNumbered m 8 rest
  | 'p' :: rest => readCategory m rest
  | 'P' :: rest => readCategory m rest
  | c :: rest => (escaped? c).map (·, rest)

example : readEscape {} "x41b".toList = some (char 'A' true, ['b']) := by decide +kernel
example : readEscape {} "1".toList = none ∧ readEscape {} "pX".toList = none := by decide +kernel

end Atom

end IndexPlanner.Regex

import IndexPlanner.Json.Literal

/-! The tokens of a text, found character by character. A text that cannot go on gives the token
`bad`, after which nothing is read. -/
namespace IndexPlanner.Json

/-- A token. A number has no value when it is out of range, a string has none when it holds half
of a surrogate pair. -/
inductive Token where
  | openArray
  | closeArray
  | openObject
  | closeObject
  | comma
  | colon
  | null
  | bool (b : Bool)
  | number (n : Option Number)
  | text (s : Option String)
  | bad
  deriving DecidableEq, Repr

/-- A piece of a string: a character, or a 16-bit unit written as an escape. -/
inductive Piece where
  | char (c : Char)
  | unit (n : Nat)
  deriving Repr

namespace Piece

/-- The first unit of a pair. -/
def isHigh (n : Nat) : Bool := 0xD800 ≤ n && n < 0xDC00

/-- The second unit of a pair. -/
def isLow (n : Nat) : Bool := 0xDC00 ≤ n && n < 0xE000

/-- The character of a surrogate pair. -/
def pair (high low : Nat) : Char := Char.ofNat (0x10000 + (high - 0xD800) * 0x400 + (low - 0xDC00))

/-- The characters of the pieces; surrogates count only in pairs. -/
def join : List Piece → Option (List Char)
  | [] => some []
  | .char c :: rest => (join rest).map (c :: ·)
  | .unit n :: .unit m :: rest =>
    if isHigh n then if isLow m then (join rest).map (pair n m :: ·) else none
    else if isLow n then none
    else (join (.unit m :: rest)).map (Char.ofNat n :: ·)
  | .unit n :: rest =>
    if isHigh n || isLow n then none else (join rest).map (Char.ofNat n :: ·)

end Piece

namespace Token

/-- What the characters read since the last token are the beginning of. Characters and pieces
taken so far stand last first. -/
inductive Mode where
  | between
  | word (next : Char) (rest : List Char) (meaning : Option Bool)
  | number (taken : List Char)
  | text (taken : List Piece)
  | escape (taken : List Piece)
  | unit (taken : List Piece) (missing : Nat) (value : Nat)
  | stuck
  deriving Repr

/-- The character of a one-letter escape. -/
def escaped? : Char → Option Char
  | '"' => some '"'
  | '\\' => some '\\'
  | '/' => some '/'
  | 'b' => some '\x08'
  | 'f' => some '\x0c'
  | 'n' => some '\n'
  | 'r' => some '\r'
  | 't' => some '\t'
  | _ => none

/-- The token of a word: a truth value, or null. -/
def ofWord : Option Bool → Token
  | some b => bool b
  | none => null

/-- The token of a complete row of number characters. -/
def ofLiteral (cs : List Char) : Token :=
  match Literal.parse? cs with
  | some l => number l.number?
  | none => bad

/-- The first character of a token, or white space between tokens. -/
def start : Char → List Token × Mode
  | ' ' | '\t' | '\n' | '\r' => ([], .between)
  | '[' => ([openArray], .between)
  | ']' => ([closeArray], .between)
  | '\x7b' => ([openObject], .between)
  | '\x7d' => ([closeObject], .between)
  | ',' => ([comma], .between)
  | ':' => ([colon], .between)
  | '"' => ([], .text [])
  | 'n' => ([], .word 'u' ['l', 'l'] none)
  | 't' => ([], .word 'r' ['u', 'e'] (some true))
  | 'f' => ([], .word 'a' ['l', 's', 'e'] (some false))
  | c => if c = '-' ∨ c.isDigit then ([], .number [c]) else ([bad], .stuck)

/-- One character: the tokens that it completes, and the mode after it. -/
def step : Mode → Char → List Token × Mode
  | .between, c => start c
  | .word next rest meaning, c =>
    if c ≠ next then ([bad], .stuck)
    else match rest with
      | [] => ([ofWord meaning], .between)
      | n :: more => ([], .word n more meaning)
  | .number taken, c =>
    if Literal.isPart c then ([], .number (c :: taken))
    else (ofLiteral taken.reverse :: (start c).1, (start c).2)
  | .text taken, c =>
    if c = '"' then ([text ((Piece.join taken.reverse).map String.ofList)], .between)
    else if c = '\\' then ([], .escape taken)
    else if c.toNat < 0x20 then ([bad], .stuck)
    else ([], .text (.char c :: taken))
  | .escape taken, c =>
    if c = 'u' then ([], .unit taken 3 0)
    else match escaped? c with
      | some e => ([], .text (.char e :: taken))
      | none => ([bad], .stuck)
  | .unit taken missing value, c =>
    match Text.hexValue? c, missing with
    | none, _ => ([bad], .stuck)
    | some d, 0 => ([], .text (.unit (16 * value + d) :: taken))
    | some d, more + 1 => ([], .unit taken more (16 * value + d))
  | .stuck, _ => ([], .stuck)

/-- The token left over when the text ends. -/
def finish : Mode → List Token
  | .between => []
  | .number taken => [ofLiteral taken.reverse]
  | .stuck => []
  | _ => [bad]

/-- The tokens of the rest of a text. -/
def scan : Mode → List Char → List Token
  | mode, [] => finish mode
  | mode, c :: cs => (step mode c).1 ++ scan (step mode c).2 cs

/-- The tokens of a text. -/
def ofText (s : String) : List Token := scan .between s.toList

end Token

end IndexPlanner.Json

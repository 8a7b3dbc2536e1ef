import IndexPlanner.Json.Document
import IndexPlanner.Text.Digits
import IndexPlanner.Text.Pieces

/-! Writing a document: on one line without blanks, or with one item to a line. -/
namespace IndexPlanner.Json

open Text

/-- The four hexadecimal digits of a unit below 256. -/
def unitDigits (n : Nat) : List Char :=
  ['0', '0', Nat.digitChar (n / 16), Nat.digitChar (n % 16)]

/-- How a character is written inside a string. -/
def escapeChar (c : Char) : List Char :=
  if c = '"' then ['\\', '"']
  else if c = '\\' then ['\\', '\\']
  else if c = '\x08' then ['\\', 'b']
  else if c = '\x0c' then ['\\', 'f']
  else if c = '\n' then ['\\', 'n']
  else if c = '\r' then ['\\', 'r']
  else if c = '\t' then ['\\', 't']
  else if c.toNat < 0x20 then ['\\', 'u'] ++ unitDigits c.toNat
  else [c]

/-- A string between quotes. -/
def quoted (s : String) : String := String.ofList ('"' :: s.toList.flatMap escapeChar ++ ['"'])

/-- The greatest number of digits that may stand before the point of a positional number. -/
def positionalMax : Int := 16

/-- The least place of the point of a positional number, zeros after the point counting down. -/
def positionalMin : Int := -4

/-- The text of a positive decimal: positional in the middle range and always with a point there,
with an exponent outside it. -/
def decimalChars (d : Decimal) : List Char :=
  let digits := digitsOf d.digits
  let place := d.pointPlace
  if positionalMin ≤ place ∧ place ≤ positionalMax then
    if place ≤ 0 then ['0', '.'] ++ List.replicate (-place).toNat '0' ++ digits
    else if digits.length ≤ place then
      digits ++ List.replicate (place.toNat - digits.length) '0' ++ ['.', '0']
    else digits.take place.toNat ++ '.' :: digits.drop place.toNat
  else
    let exponent := place - 1
    digits.take 1 ++ (if digits.length = 1 then [] else '.' :: digits.drop 1) ++
      ['e', if exponent < 0 then '-' else '+'] ++ digitsOf exponent.natAbs

/-- The text of a floating-point number, with the fewest digits that read back as it. -/
def realText (x : Binary64) : String :=
  String.ofList ((if x.negative then ['-'] else []) ++
    if x.rank = 0 then ['0', '.', '0'] else decimalChars (Binary64.shortest x.rank))

/-- The text of a number. -/
def Number.text : Number → String
  | .int i _ => intText i
  | .real x => realText x

namespace Document

mutual
/-- The text on one line, without blanks. -/
def text : Document → String
  | null => "null"
  | bool true => "true"
  | bool false => "false"
  | number n => n.text
  | string s => quoted s
  | array items => "[" ++ joinWith "," (itemTexts items) ++ "]"
  | object members => "\x7b" ++ joinWith "," (memberTexts members) ++ "\x7d"
  | unreadable => ""
  | broken => ""

def itemTexts : List Document → List String
  | [] => []
  | d :: ds => text d :: itemTexts ds

def memberTexts : List (Option String × Document) → List String
  | [] => []
  | (key, d) :: rest => (quoted (key.getD "") ++ ":" ++ text d) :: memberTexts rest
end

/-- A new line, indented by two blanks for each container that it lies in. -/
def newLine (depth : Nat) : String := String.ofList ('\n' :: List.replicate (2 * depth) ' ')

/-- Texts on lines of their own between two brackets; nothing between them if there are none. -/
def block (depth : Nat) (opening closing : String) : List String → String
  | [] => opening ++ closing
  | texts =>
    opening ++ newLine (depth + 1) ++ joinWith ("," ++ newLine (depth + 1)) texts ++
      newLine depth ++ closing

mutual
/-- The text with each item and member on a line of its own. -/
def prettyAt (depth : Nat) : Document → String
  | array items => block depth "[" "]" (prettyItems (depth + 1) items)
  | object members => block depth "\x7b" "\x7d" (prettyMembers (depth + 1) members)
  | d => text d

def prettyItems (depth : Nat) : List Document → List String
  | [] => []
  | d :: ds => prettyAt depth d :: prettyItems depth ds

def prettyMembers (depth : Nat) : List (Option String × Document) → List String
  | [] => []
  | (key, d) :: rest =>
    (quoted (key.getD "") ++ ": " ++ prettyAt depth d) :: prettyMembers depth rest
end

/-- The text with each item and member on a line of its own, nothing before the first. -/
def pretty (d : Document) : String := prettyAt 0 d

end Document

/-- The text of a value, on one line and without blanks. -/
def Value.text (v : Value) : String := (Document.ofValue v).text

end IndexPlanner.Json

import IndexPlanner.Json.Document
import IndexPlanner.Json.Token

/-! Reading a text. The tokens are taken one by one; the containers that are still open lie on a
stack, innermost first. A text that breaks off or goes wrong still has a tree, in which the place
is marked, so that a decoder meets faults in the order in which they are written. -/
namespace IndexPlanner.Json

/-- A container that is still open: the items or members so far, last first. -/
inductive Frame where
  | items (taken : List Document)
  | members (taken : List (Option String × Document))
  | member (taken : List (Option String × Document)) (key : Option String)
  deriving Repr

/-- What the next token may be. -/
inductive Expect where
  | value
  | valueOrClose
  | key
  | keyOrClose
  | colon
  | next
  deriving Repr, DecidableEq

/-- The state between two tokens. -/
inductive Reading where
  | open (expect : Expect) (stack : List Frame)
  | finished (document : Document) (trailing : Bool)
  deriving Repr

namespace Reading

/-- The number of containers that may lie inside each other. -/
def depthLimit : Nat := 127

/-- A container as it is seen from outside: one that lies too deep has no value. -/
def container (outer : List Frame) (d : Document) : Document :=
  if outer.length < depthLimit then d else .unreadable

/-- A container that breaks off, as it is seen from outside. -/
def fragment (outer : List Frame) (d : Document) : Document :=
  if outer.length < depthLimit then d else .broken

/-- The reading after a complete value. -/
def put (d : Document) : List Frame → Reading
  | [] => finished d false
  | .items taken :: outer => .open .next (.items (d :: taken) :: outer)
  | .members taken :: outer => .open .next (.members ((none, d) :: taken) :: outer)
  | .member taken key :: outer => .open .next (.members ((key, d) :: taken) :: outer)

/-- The tree of a text that goes wrong inside the open containers. -/
def breakOff (inner : Document) : List Frame → Document
  | [] => inner
  | .items taken :: outer => breakOff (fragment outer (.array (inner :: taken).reverse)) outer
  | .members taken :: outer =>
    breakOff (fragment outer (.object ((none, inner) :: taken).reverse)) outer
  | .member taken key :: outer =>
    breakOff (fragment outer (.object ((key, inner) :: taken).reverse)) outer

/-- The reading after a token that has no place where it stands. -/
def fail (stack : List Frame) : Reading := finished (breakOff .broken stack) true

/-- A value begins. -/
def value (stack : List Frame) : Token → Reading
  | .openArray => .open .valueOrClose (.items [] :: stack)
  | .openObject => .open .keyOrClose (.members [] :: stack)
  | .null => put .null stack
  | .bool b => put (.bool b) stack
  | .number (some n) => put (.number n) stack
  | .text (some s) => put (.string s) stack
  | .number none | .text none => put .unreadable stack
  | _ => fail stack

/-- A member begins. -/
def key (stack : List Frame) : Token → Reading
  | .text s =>
    match stack with
    | .members taken :: outer => .open .colon (.member taken s :: outer)
    | _ => fail stack
  | _ => fail stack

/-- The reading after one more token. -/
def step : Reading → Token → Reading
  | .open .value stack, t => value stack t
  | .open .valueOrClose (.items [] :: outer), .closeArray => put (container outer (.array [])) outer
  | .open .valueOrClose stack, t => value stack t
  | .open .keyOrClose (.members [] :: outer), .closeObject =>
    put (container outer (.object [])) outer
  | .open .keyOrClose stack, t => key stack t
  | .open .key stack, t => key stack t
  | .open .colon stack, .colon => .open .value stack
  | .open .next (.items taken :: outer), .comma => .open .value (.items taken :: outer)
  | .open .next (.members taken :: outer), .comma => .open .key (.members taken :: outer)
  | .open .next (.items taken :: outer), .closeArray =>
    put (container outer (.array taken.reverse)) outer
  | .open .next (.members taken :: outer), .closeObject =>
    put (container outer (.object taken.reverse)) outer
  | .open _ stack, _ => fail stack
  | .finished d _, _ => .finished d true

/-- The tree of a reading whose text has ended, and whether anything is wrong after that tree. -/
def result : Reading → Document × Bool
  | .open _ stack => (breakOff .broken stack, true)
  | .finished d trailing => (d, trailing)

end Reading

namespace Document

/-- The tree of a text, and whether the text goes on after it or breaks off inside it. -/
def read (s : String) : Document × Bool :=
  ((Token.ofText s).foldl Reading.step (.open .value [])).result

end Document

namespace Value

/-- The value that the whole text spells. -/
def read (s : String) : Option Value :=
  match Document.read s with
  | (d, false) => d.value?
  | (_, true) => none

end Value

end IndexPlanner.Json

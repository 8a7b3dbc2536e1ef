import IndexPlanner.Filter.Basic
import IndexPlanner.Json.Reader
import IndexPlanner.Json.Record

/-! Index filters as documents: a record of a kind and the fields that the kind has. -/
namespace IndexPlanner.IndexFilter

open Json (Document Value)

/-- The kinds of filters as they are written. -/
inductive Kind where
  | equal
  | range
  | within
  deriving DecidableEq, Repr

/-- The kind with the given name. -/
def Kind.ofName? : String → Option Kind
  | "equal" => some .equal
  | "range" => some .range
  | "geo_within" => some .within
  | _ => none

/-- The fields of a kind in their order. -/
def Kind.fieldNames : Kind → List String
  | .equal => ["bin", "value"]
  | .range => ["bin", "begin", "end"]
  | .within => ["bin", "region"]

/-- The filter of a kind from the contents of its fields, none of which may be missing. -/
def ofFields? : Kind → List (Option Document) → Option IndexFilter
  | .equal, [some bin, some value] => do
    let bin ← bin.string?
    match value with
    | .string s => some (equalText bin s)
    | value => value.int64?.map (equalInt bin)
  | .range, [some bin, some low, some high] => do
    return range (← bin.string?) (← low.int64?) (← high.int64?)
  | .within, [some bin, some region] => do
    return within (← bin.string?) (← region.string?)
  | _, _ => none

/-- The filter of a tree. Members beside the fields must have values, whatever they are; an array
has nothing beside the fields. -/
def decode? : Document → Option IndexFilter
  | .object members => do
    let _ ← Document.members? members
    let kind ← (Document.content? members "kind").bind Document.string?
    let kind ← Kind.ofName? kind
    match ← (Document.object members).fields? ("kind" :: kind.fieldNames) with
    | _ :: fields => ofFields? kind fields
    | [] => none
  | .array (.string name :: items) => do
    let kind ← Kind.ofName? name
    let fields ← (Document.array items).fields? kind.fieldNames
    ofFields? kind fields
  | _ => none

/-- The filter of a value. -/
def ofValue? (v : Value) : Option IndexFilter := decode? (.ofValue v)

/-- The filter of a text. -/
def read? (s : String) : Option IndexFilter :=
  if (Document.read s).2 then none else decode? (Document.read s).1

/-- The filter as a value. -/
def toValue : IndexFilter → Value
  | equalInt bin value =>
    .ofMembers [("kind", .string "equal"), ("bin", .string bin), ("value", .ofInt value)]
  | equalText bin value =>
    .ofMembers [("kind", .string "equal"), ("bin", .string bin), ("value", .string value)]
  | range bin low high =>
    .ofMembers [("kind", .string "range"), ("bin", .string bin), ("begin", .ofInt low),
      ("end", .ofInt high)]
  | within bin region =>
    .ofMembers [("kind", .string "geo_within"), ("bin", .string bin), ("region", .string region)]

end IndexPlanner.IndexFilter

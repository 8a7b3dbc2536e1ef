import IndexPlanner.Index.Snapshot
import IndexPlanner.Text.Blank
import IndexPlanner.Text.Pieces

/-! The text in which a cluster describes its indexes: entries between semicolons, each a row of
`key=value` fields between colons. Blanks around entries, fields, keys and values do not count,
and what is unknown is passed over; but an entry that lacks a key spoils the whole text. -/
namespace IndexPlanner

open Text

/-- Why an entry describes no index. -/
inductive InfoError where
  | malformedField (entry field : String)
  | missingKey (entry key : String)
  deriving DecidableEq, Repr

namespace InfoError

/-- The text of the error. -/
def message : InfoError → String
  | malformedField entry field =>
    s!"malformed index entry '{entry}': field '{field}' is not key=value"
  | missingKey entry key => s!"malformed index entry '{entry}': missing required key '{key}'"

/-- The name by which callers tell errors apart. -/
def code : InfoError → String := fun _ => "AERO_INDEX_PARSE"

end InfoError

/-- A field of an entry. -/
structure InfoField where
  key : String
  value : String
  deriving DecidableEq, Repr

namespace InfoField

/-- Reads one field; the value may hold further equality signs. -/
def ofChars? (cs : List Char) : Option InfoField :=
  (cutAt '=' cs).map fun p => ⟨.ofList (trimChars p.1), .ofList (trimChars p.2)⟩

/-- The value of the last field with the key. -/
def last? (fields : List InfoField) (key : String) : Option String :=
  (fields.reverse.find? (·.key == key)).map (·.value)

/-- The value of the first of the keys that has one; an empty value does not count. -/
def first? (fields : List InfoField) (keys : List String) : Option String :=
  keys.findSome? fun key => (last? fields key).filter (· ≠ "")

end InfoField

/-- The parts between the separators that are not blank, trimmed. -/
def parts (separator : Char) (cs : List Char) : List (List Char) :=
  ((pieces separator cs).map trimChars).filter (!·.isEmpty)

namespace Index

/-- The fields of an entry, or the first part that is none. -/
def infoFields (entry : List Char) : Except InfoError (List InfoField) :=
  (parts ':' entry).mapM fun part =>
    match InfoField.ofChars? part with
    | some f => .ok f
    | none => .error (.malformedField (.ofList entry) (.ofList part))

/-- A key that an entry must have, under any of its names; the first name is its own. -/
def require (entry : List Char) (fields : List InfoField) (key : String) (others : List String) :
    Except InfoError String :=
  match InfoField.first? fields (key :: others) with
  | some value => .ok value
  | none => .error (.missingKey (.ofList entry) key)

/-- The set that a field names; an empty text and the word null name none. -/
def setOf (value : Option String) : Option String :=
  value.filter fun s => s ≠ "" ∧ asciiLower s ≠ "null"

/-- The index that an entry describes. -/
def ofInfoChars (entry : List Char) : Except InfoError Index := do
  let fields ← infoFields entry
  let name ← require entry fields "indexname" ["name"]
  let space ← require entry fields "ns" ["namespace"]
  let bin ← require entry fields "bin" ["bins"]
  let type ← require entry fields "type" []
  let shape ← require entry fields "indextype" []
  return { name, space, set := setOf (InfoField.last? fields "set"), bin,
           type := IndexType.ofName? type, shape := IndexShape.ofName? shape }

/-- The index that an entry describes. -/
def ofInfo (entry : String) : Except InfoError Index := ofInfoChars entry.toList

/-- The entry that describes the index. -/
def info (i : Index) : String :=
  "ns=" ++ i.space ++ ":set=" ++ i.set.getD "NULL" ++ ":indexname=" ++ i.name ++ ":bin=" ++ i.bin ++
    ":type=" ++ (i.type.map IndexType.name).getD "UNKNOWN" ++
    ":indextype=" ++ (i.shape.map IndexShape.name).getD "UNKNOWN"

end Index

namespace Snapshot

/-- The indexes that a whole text describes; the first bad entry is the error. -/
def ofInfo (response : String) : Except InfoError Snapshot :=
  ((parts ';' response.toList).mapM Index.ofInfoChars).map ofList

/-- The text that describes all the indexes. -/
def info (s : Snapshot) : String := joinWith ";" (s.indexes.map Index.info)

end Snapshot

end IndexPlanner

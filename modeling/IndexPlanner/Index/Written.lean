import IndexPlanner.Index.Basic
import IndexPlanner.Json.Document

/-! Indexes as documents. -/
namespace IndexPlanner

open Json (Document)

/-- The name of a type in a document. -/
def IndexType.documentName : IndexType → String
  | string => "STRING"
  | numeric => "NUMERIC"
  | geo => "GEO2D_SPHERE"

/-- The name of a shape in a document. -/
def IndexShape.documentName : IndexShape → String
  | plain => "DEFAULT"
  | list => "LIST"
  | mapKeys => "MAP_KEYS"
  | mapValues => "MAP_VALUES"

/-- All parts of an index by name, absent ones null. -/
def Index.document (i : Index) : Document :=
  .object [(some "name", .string i.name), (some "namespace", .string i.space),
    (some "set", .ofValue (.ofText? i.set)), (some "bin", .string i.bin),
    (some "index_type", .ofValue (.ofText? (i.type.map IndexType.documentName))),
    (some "collection_type", .ofValue (.ofText? (i.shape.map IndexShape.documentName)))]

end IndexPlanner

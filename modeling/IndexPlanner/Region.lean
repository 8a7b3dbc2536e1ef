import IndexPlanner.Json.Length

/-! Regions on the map and the points in them. A region is a polygon, of which only the outer ring
counts, or a circle around a point; both come as objects or as texts that spell objects. -/
namespace IndexPlanner

open Json (Value Members)

/-- A point by longitude and latitude in degrees. -/
structure GeoPoint where
  lng : Binary64
  lat : Binary64
  deriving DecidableEq, Repr

namespace GeoPoint

/-- The first two numbers of an array; further items do not count. -/
def ofCoordinates? (v : Value) : Option GeoPoint := do
  let lng ← (v.item? 0).bind Value.number?
  let lat ← (v.item? 1).bind Value.number?
  return ⟨lng.toBinary64, lat.toBinary64⟩

/-- The point that an object of type `Point` stands for. -/
def ofMembers? (members : Members) : Option GeoPoint :=
  if (members.get? "type").bind Value.string? = some "Point" then
    (members.get? "coordinates").bind ofCoordinates?
  else none

/-- The point that a text spells. The text may spell a string that is again such a text. -/
def ofText? (t : String) : Option GeoPoint :=
  match _h : Value.read t with
  | some (.string s) => ofText? s
  | some (.object members) => ofMembers? members
  | _ => none
termination_by t.length
decreasing_by exact Value.length_of_read _h

/-- The point that a value stands for. -/
def ofValue? : Value → Option GeoPoint
  | .string t => ofText? t
  | .object members => ofMembers? members
  | _ => none

end GeoPoint

/-- An area on the map: a ring of points, or the points within a distance in metres. -/
inductive Region where
  | polygon (ring : List GeoPoint)
  | circle (center : GeoPoint) (radius : Binary64)
  deriving DecidableEq, Repr

namespace Region

/-- The region of an object: a polygon with at least three points in its outer ring, or a circle
whose radius is not negative. -/
def ofObject? (v : Value) : Option Region := do
  let coordinates ← v.member? "coordinates"
  match ← (v.member? "type").bind Value.string? with
  | "Polygon" =>
    let ring ← (← (coordinates.item? 0).bind Value.array?).mapM GeoPoint.ofCoordinates?
    if 3 ≤ ring.length then some (polygon ring) else none
  | "AeroCircle" =>
    let center ← (coordinates.item? 0).bind GeoPoint.ofCoordinates?
    let radius ← (coordinates.item? 1).bind Value.number?
    if 0 ≤ radius.toBinary64.position then some (circle center radius.toBinary64) else none
  | _ => none

/-- The region that a text spells. -/
def ofText? (t : String) : Option Region := (Value.read t).bind ofObject?

/-- The region of an object or of a text. -/
def ofValue? : Value → Option Region
  | .string t => ofText? t
  | .object members => ofObject? (.object members)
  | _ => none

/-- The edges of a ring, each from a point to the next; the last point leads to the first. -/
def edges (ring : List GeoPoint) : List (GeoPoint × GeoPoint) :=
  (ring.getLast?.toList ++ ring).zip ring

/-- Whether the line from the point to the east crosses the edge. -/
def crosses (p : GeoPoint) (edge : GeoPoint × GeoPoint) : Bool :=
  let x := p.lng.toFloat
  let y := p.lat.toFloat
  let fromX := edge.1.lng.toFloat
  let fromY := edge.1.lat.toFloat
  let toX := edge.2.lng.toFloat
  let toY := edge.2.lat.toFloat
  decide (y < toY) != decide (y < fromY) &&
    decide (x < (fromX - toX) * (y - toY) / (fromY - toY) + toX)

/-- A point is inside a ring when the line from it crosses an odd number of edges. -/
def ringContains (ring : List GeoPoint) (p : GeoPoint) : Bool :=
  decide (3 ≤ ring.length) && (edges ring).countP (crosses p) % 2 == 1

/-- The mean radius of the earth in metres. -/
def earthRadius : Float := 6371000.0

/-- Half a turn in radians. -/
def halfTurn : Float := 3.14159265358979323846

/-- Degrees in radians. -/
def radians (degrees : Float) : Float := degrees * (halfTurn / 180.0)

/-- The distance in metres along a great circle, by the haversine formula. -/
def distance (p q : GeoPoint) : Float :=
  let lat₁ := p.lat.toFloat
  let lat₂ := q.lat.toFloat
  let sinLat := (radians (lat₂ - lat₁) / 2.0).sin
  let sinLng := (radians (q.lng.toFloat - p.lng.toFloat) / 2.0).sin
  let a := sinLat * sinLat + (radians lat₁).cos * (radians lat₂).cos * (sinLng * sinLng)
  2.0 * earthRadius * a.sqrt.asin

/-- Whether the point lies in the region. -/
def containsPoint : Region → GeoPoint → Bool
  | polygon ring, p => ringContains ring p
  | circle center radius, p => decide (distance center p ≤ radius.toFloat)

/-- Whether the value is a point of the region. -/
def contains (r : Region) (v : Value) : Bool :=
  match GeoPoint.ofValue? v with
  | some p => r.containsPoint p
  | none => false

end Region

end IndexPlanner

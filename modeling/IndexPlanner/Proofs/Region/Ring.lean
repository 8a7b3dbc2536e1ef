import IndexPlanner.Region
import Mathlib.Data.Bool.Basic
import Mathlib.Data.List.Rotate

/-! Rings that are drawn differently. Whether a point is inside a ring depends on the edges alone,
each with its direction, and not on their order. An edge from a vertex to itself is never crossed.
So a ring may start at any of its vertices, repeat vertices, and be closed or not. The formula for
the place where an edge is crossed does not matter: any other gives answers with the same freedom. -/
namespace IndexPlanner

namespace Region

/-- An edge of a ring, from its first point to its second. -/
abbrev Edge := GeoPoint × GeoPoint

/-- The edges of a path that comes from the first point. -/
def pathEdges : GeoPoint → List GeoPoint → List Edge
  | _, [] => []
  | before, here :: rest => (before, here) :: pathEdges here rest

/-- Walks along a path and changes the answer at every edge that is crossed. -/
def walk (crosses : Edge → Bool) : Bool → GeoPoint → List GeoPoint → Bool
  | inside, _, [] => inside
  | inside, before, here :: rest => walk crosses (inside ^^ crosses (before, here)) here rest

/-- The ends of the edge lie on different sides of the line to the east. -/
def straddles (p : GeoPoint) (edge : Edge) : Bool :=
  decide (p.lat.toFloat < edge.2.lat.toFloat) != decide (p.lat.toFloat < edge.1.lat.toFloat)

/-- The point lies before the place where its line meets the edge, by the slope of the edge. -/
def liesBefore (p : GeoPoint) (edge : Edge) : Bool :=
  let y := p.lat.toFloat
  let fromX := edge.1.lng.toFloat
  let fromY := edge.1.lat.toFloat
  let toX := edge.2.lng.toFloat
  let toY := edge.2.lat.toFloat
  decide (p.lng.toFloat < (fromX - toX) * (y - toY) / (fromY - toY) + toX)

/-- Walks once around the ring, coming from its last point. On which side of an edge the point lies
is asked of `before` when the edge is straddled. -/
def isInside (before : GeoPoint → Edge → Bool) (ring : List GeoPoint) (p : GeoPoint) : Bool :=
  decide (3 ≤ ring.length) && match ring.getLast? with
    | some last => walk (fun edge => straddles p edge && before p edge) false last ring
    | none => false

variable {crosses : Edge → Bool} {ring ring' : List GeoPoint}

/-! The edges of a ring and of the paths along it. -/

theorem zip_eq_pathEdges (before : GeoPoint) (ring : List GeoPoint) :
    (before :: ring).zip ring = pathEdges before ring := by
  induction ring generalizing before with
  | nil => rfl
  | cons here rest ih => rw [List.zip_cons_cons, ih, pathEdges]

theorem edges_cons (first : GeoPoint) (rest : List GeoPoint) :
    edges (first :: rest) = (rest.getLastD first, first) :: pathEdges first rest := by
  rw [edges, List.getLast?_cons, ← List.getLastD_eq_getLast?]
  exact zip_eq_pathEdges _ (first :: rest)

theorem pathEdges_append (before : GeoPoint) (path rest : List GeoPoint) :
    pathEdges before (path ++ rest) =
      pathEdges before path ++ pathEdges (path.getLastD before) rest := by
  induction path generalizing before with
  | nil => rfl
  | cons here path ih =>
    rw [List.cons_append, pathEdges, pathEdges, ih, List.getLastD_cons, List.cons_append]

/-- The answer of a walk changes once for every edge that is crossed. -/
theorem walk_eq (inside : Bool) (before : GeoPoint) (path : List GeoPoint) :
    walk crosses inside before path =
      (inside ^^ ((pathEdges before path).countP crosses % 2 == 1)) := by
  induction path generalizing inside before with
  | nil => exact (Bool.xor_false inside).symm
  | cons here rest ih =>
    rw [walk, ih, pathEdges, List.countP_cons, Bool.xor_assoc]
    congr 1
    -- one more edge turns an even count into an odd one
    cases crosses (before, here) with
    | false => rw [Bool.false_xor, if_neg Bool.false_ne_true, Nat.add_zero]
    | true =>
      rw [if_pos rfl, Bool.true_xor]
      grind

theorem isInside_eq (before : GeoPoint → Edge → Bool) (ring : List GeoPoint) (p : GeoPoint) :
    isInside before ring p = (decide (3 ≤ ring.length) &&
      (edges ring).countP (fun edge => straddles p edge && before p edge) % 2 == 1) := by
  cases ring with
  | nil => rfl
  | cons first rest =>
    rw [isInside, List.getLast?_cons, ← List.getLastD_eq_getLast?, edges_cons]
    simp only [walk_eq, Bool.false_xor, pathEdges]

/-- A point is inside when the walk around the ring says so. -/
theorem ringContains_eq_isInside (ring : List GeoPoint) (p : GeoPoint) :
    ringContains ring p = isInside liesBefore ring p := by
  rw [isInside_eq]
  rfl

/-! A ring that starts at another of its vertices has the same edges. -/

theorem edges_concat (path : List GeoPoint) (last : GeoPoint) :
    edges (path ++ [last]) = pathEdges last (path ++ [last]) := by
  rw [edges, List.getLast?_concat]
  exact zip_eq_pathEdges last (path ++ [last])

theorem edges_rotate_one_perm (ring : List GeoPoint) :
    (edges (ring.rotate 1)).Perm (edges ring) := by
  cases ring with
  | nil => exact .refl _
  | cons first rest =>
    rw [List.rotate_cons_succ, List.rotate_zero, edges_concat, pathEdges_append, edges_cons]
    exact List.perm_append_singleton _ _

theorem edges_rotate_perm (ring : List GeoPoint) (n : Nat) :
    (edges (ring.rotate n)).Perm (edges ring) := by
  induction n with
  | zero => rw [List.rotate_zero]
  | succ n ih =>
    rw [← List.rotate_rotate]
    exact (edges_rotate_one_perm _).trans ih

/-! A vertex that is repeated adds edges that nothing crosses. -/

/-- The second ring is the first one with vertices repeated next to themselves, each any number of
times. -/
inductive Repeats : List GeoPoint → List GeoPoint → Prop
  | nil : Repeats [] []
  | cons {ring ring' : List GeoPoint} (p : GeoPoint) (times : Nat) (h : Repeats ring ring') :
      Repeats (p :: ring) (p :: (List.replicate times p ++ ring'))

theorem Repeats.refl (ring : List GeoPoint) : Repeats ring ring := by
  induction ring with
  | nil => exact .nil
  | cons p ring ih => exact .cons p 0 ih

theorem Repeats.length_le (h : Repeats ring ring') : ring.length ≤ ring'.length := by
  induction h with
  | nil => exact Nat.le_refl 0
  | cons p times _ ih =>
    simp only [List.length_cons, List.length_append]
    omega

theorem getLastD_replicate_append (p : GeoPoint) (times : Nat) (path : List GeoPoint) :
    (List.replicate times p ++ path).getLastD p = path.getLastD p := by
  induction times with
  | zero => rfl
  | succ times ih => rw [List.replicate_succ, List.cons_append, List.getLastD_cons, ih]

theorem Repeats.getLastD_eq (h : Repeats ring ring') (p : GeoPoint) :
    ring'.getLastD p = ring.getLastD p := by
  induction h generalizing p with
  | nil => rfl
  | cons q times _ ih =>
    rw [List.getLastD_cons, List.getLastD_cons, getLastD_replicate_append, ih]

theorem countP_pathEdges_replicate (h : ∀ p, crosses (p, p) = false) (p : GeoPoint) (times : Nat)
    (path : List GeoPoint) :
    (pathEdges p (List.replicate times p ++ path)).countP crosses =
      (pathEdges p path).countP crosses := by
  induction times with
  | zero => rfl
  | succ times ih =>
    rw [List.replicate_succ, List.cons_append, pathEdges, List.countP_cons_of_neg (by simp [h]), ih]

theorem Repeats.countP_pathEdges (hring : Repeats ring ring') (h : ∀ p, crosses (p, p) = false)
    (before : GeoPoint) :
    (pathEdges before ring').countP crosses = (pathEdges before ring).countP crosses := by
  induction hring generalizing before with
  | nil => rfl
  | cons p times _ ih =>
    rw [pathEdges, List.countP_cons, countP_pathEdges_replicate h, ih, pathEdges, List.countP_cons]

theorem Repeats.countP_edges (hring : Repeats ring ring') (h : ∀ p, crosses (p, p) = false) :
    (edges ring').countP crosses = (edges ring).countP crosses := by
  cases hring with
  | nil => rfl
  | @cons ring ring' p times hring =>
    have hlast := (Repeats.cons p times hring).getLastD_eq p
    have hpath := (Repeats.cons p times hring).countP_pathEdges h
    rw [List.getLastD_cons, List.getLastD_cons] at hlast
    -- both paths come from the last vertex, which repetitions leave as it is
    rw [edges_cons, edges_cons, hlast]
    exact hpath (ring.getLastD p)

/-! Rings that outline the same region. -/

/-- The second ring is the first one drawn in another way: started at another vertex, with vertices
repeated next to themselves, or closed with its first point. -/
inductive Redraws : List GeoPoint → List GeoPoint → Prop
  | turned (ring : List GeoPoint) (n : Nat) : Redraws ring (ring.rotate n)
  | repeated {ring ring' : List GeoPoint} (h : Repeats ring ring') : Redraws ring ring'
  | closed (first : GeoPoint) (rest : List GeoPoint) :
      Redraws (first :: rest) (first :: rest ++ [first])
  | trans {ring ring' ring'' : List GeoPoint} (h : Redraws ring ring') (h' : Redraws ring' ring'') :
      Redraws ring ring''

theorem Redraws.length_le (h : Redraws ring ring') : ring.length ≤ ring'.length := by
  induction h with
  | turned ring n => rw [List.length_rotate]
  | repeated h => exact h.length_le
  | closed first rest => exact (List.sublist_append_left _ _).length_le
  | trans _ _ ih ih' => exact ih.trans ih'

/-- A closed ring is an open one that starts with its first point twice, turned by one. -/
theorem closed_eq_rotate (first : GeoPoint) (rest : List GeoPoint) :
    first :: rest ++ [first] = (first :: first :: rest).rotate 1 := by
  rw [List.rotate_cons_succ, List.rotate_zero]

theorem Redraws.countP_edges (hring : Redraws ring ring') (h : ∀ p, crosses (p, p) = false) :
    (edges ring').countP crosses = (edges ring).countP crosses := by
  induction hring with
  | turned ring n => exact (edges_rotate_perm ring n).countP_eq crosses
  | repeated hring => exact hring.countP_edges h
  | closed first rest =>
    rw [closed_eq_rotate, (edges_rotate_perm _ 1).countP_eq]
    exact (Repeats.cons first 1 (.refl rest)).countP_edges h
  | trans _ _ ih ih' => rw [ih', ih]

theorem straddles_self (p q : GeoPoint) : straddles p (q, q) = false := bne_self_eq_false _

/-- A ring gives the same answers however it is drawn. A point is in the polygon when the walk
around the ring says so; and the walk, whatever formula decides on which side of an edge a point is,
gives the same answer for a ring that starts at another vertex, repeats vertices or is closed. -/
theorem contains_of_redraws (ring ring' : List GeoPoint) (hlen : 3 ≤ ring.length)
    (h : Redraws ring ring') :
    (∀ before p, isInside before ring' p = isInside before ring p) ∧
    (∀ p, (polygon ring).containsPoint p = isInside liesBefore ring p) ∧
    ∀ v, (polygon ring').contains v = (polygon ring).contains v := by
  have hinside : ∀ before p, isInside before ring' p = isInside before ring p := by
    intro before p
    rw [isInside_eq, isInside_eq, decide_eq_true hlen, decide_eq_true (hlen.trans h.length_le),
      h.countP_edges]
    intro q
    rw [straddles_self, Bool.false_and]
  refine ⟨hinside, fun p => ringContains_eq_isInside ring p, fun v => ?_⟩
  rw [contains, contains]
  cases GeoPoint.ofValue? v with
  | none => rfl
  | some p =>
    exact (ringContains_eq_isInside ring' p).trans
      ((hinside liesBefore p).trans (ringContains_eq_isInside ring p).symm)

/-! A triangle, drawn again from its second corner, with the third corner twice, and closed. -/

/-- The origin. -/
def origin : GeoPoint := ⟨.ofInt 0, .ofInt 0⟩

/-- A point to the east of the origin. -/
def east : GeoPoint := ⟨.ofInt 4, .ofInt 0⟩

/-- A point to the north of the origin. -/
def north : GeoPoint := ⟨.ofInt 0, .ofInt 3⟩

theorem contains_of_redraws_triangle :
    3 ≤ [origin, east, north].length ∧
    Redraws [origin, east, north] [east, north, north, origin, east] ∧
    ∀ v, (polygon [east, north, north, origin, east]).contains v =
      (polygon [origin, east, north]).contains v := by
  have hturned : Redraws [origin, east, north] [east, north, origin] := .turned _ 1
  have hrepeated : Redraws [east, north, origin] [east, north, north, origin] :=
    .repeated (.cons east 0 (.cons north 1 (.refl [origin])))
  have hredraws : Redraws [origin, east, north] [east, north, north, origin, east] :=
    (hturned.trans hrepeated).trans (.closed east [north, north, origin])
  have hlen : 3 ≤ [origin, east, north].length := Nat.le_refl 3
  obtain ⟨_, _, hsame⟩ := contains_of_redraws _ _ hlen hredraws
  exact ⟨hlen, hredraws, hsame⟩

end Region

end IndexPlanner

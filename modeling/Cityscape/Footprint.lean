import Cityscape.Rect
import Cityscape.Segment

/-!
# Footprints

Oriented rectangles of the map, on which buildings stand.

## Main definitions

* `Footprint` — a rectangle by its four corners.
* `Footprint.ofSides` — the rectangle that extends from a corner along two directions.
* `Footprint.contains`, `Footprint.meets`, `Footprint.overlaps` — tests against a point, a segment
  and another footprint.
-/

namespace Cityscape

/-- An oriented rectangle by its corners in cyclic order. -/
structure Footprint (α : Type) where
  /-- The corner it is laid out from. -/
  c0 : Vec2 α
  /-- The corner along the first side. -/
  c1 : Vec2 α
  /-- The corner opposite to the first. -/
  c2 : Vec2 α
  /-- The corner along the last side. -/
  c3 : Vec2 α
  deriving Repr

namespace Footprint

variable {α : Type} [Scalar α]

/-- The rectangle from the corner `origin` that extends by `size.x` along the direction `along` and
by `size.y` along the direction `side`. -/
def ofSides (origin along side size : Vec2 α) : Footprint α :=
  let a := along.scale size.x
  let b := side.scale size.y
  ⟨origin, origin + a, origin + a + b, origin + b⟩

/-- The corners in cyclic order. -/
def corners {α : Type} (f : Footprint α) : List (Vec2 α) := [f.c0, f.c1, f.c2, f.c3]

/-- The sides in cyclic order. -/
def edges {α : Type} (f : Footprint α) : List (Segment α) :=
  [⟨f.c0, f.c1⟩, ⟨f.c1, f.c2⟩, ⟨f.c2, f.c3⟩, ⟨f.c3, f.c0⟩]

/-- The mean of the corners. -/
def centre (f : Footprint α) : Vec2 α :=
  (f.corners.foldl (· + ·) 0).divide 4.0

/-- The least axis-aligned rectangle around the corners. -/
def bounds (f : Footprint α) : Rect α := Rect.bounding f.corners

/-! ## Containment -/

/-- The side of an edge on which a point lies: one, minus one, or nothing when the point lies on the
line of the edge up to the tolerance. -/
def turnAt (edge : Segment α) (p : Vec2 α) : Option α :=
  let c := edge.span.cross (p - edge.start)
  if Scalar.abs c ≤ Scalar.tolerance then none
  else some (if 0 < c then 1 else if c < 0 then -1 else c)

/-- Whether the turns that are left agree with each other and with the turn seen last. -/
def turnsAgree : Option α → List (Option α) → Bool
  | _, [] => true
  | seen, none :: rest => turnsAgree seen rest
  | none, some t :: rest => turnsAgree (some t) rest
  | some s, some t :: rest => if t == s then turnsAgree (some t) rest else false

/-- Whether a point lies in the rectangle: it is on the same side of every edge. -/
def contains (f : Footprint α) (p : Vec2 α) : Bool :=
  turnsAgree none (f.edges.map (turnAt · p))

/-- Whether a segment has a point in common with the rectangle. -/
def meets (f : Footprint α) (s : Segment α) : Bool :=
  f.contains s.start || f.contains s.finish ||
    f.edges.any fun edge => (s.intersect edge).segments.isSome

/-! ## Overlap -/

/-- The interval that a rectangle covers when it is projected on a direction. -/
def project (f : Footprint α) (axis : Vec2 α) : α × α :=
  f.corners.foldl (fun (low, high) c => (Scalar.min low (c.dot axis), Scalar.max high (c.dot axis)))
    (Scalar.largest, -Scalar.largest)

/-- Whether a direction fails to tell two rectangles apart: their projections overlap by more than
the tolerance, or the direction is none. -/
def overlapsAlong (f g : Footprint α) (axis : Vec2 α) : Bool :=
  let axis := axis.normalizeOrZero
  if axis == 0 then true
  else
    let a := f.project axis
    let b := g.project axis
    decide (a.1 < b.2 - Scalar.tolerance) && decide (b.1 < a.2 - Scalar.tolerance)

/-- Whether two rectangles overlap by more than the tolerance: no side direction of either tells
them apart. -/
def overlaps (f g : Footprint α) : Bool :=
  [f.c1 - f.c0, f.c3 - f.c0, g.c1 - g.c0, g.c3 - g.c0].all (f.overlapsAlong g)

end Footprint

end Cityscape

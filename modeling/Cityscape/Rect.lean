import Cityscape.Fault
import Cityscape.Vector

/-!
# Rectangles

Axis-aligned rectangles of the map.

## Main definitions

* `Rect` — a rectangle by its least and its greatest corner.
* `Rect.ofCorners`, `Rect.around` — the rectangle of two opposite corners, and around a point.
* `Rect.Holds`, `Rect.Touches` — half-open membership of a point, and the closed overlap of two
  rectangles.
-/

namespace Cityscape

/-- The rectangle between two corners. -/
structure Rect (α : Type) where
  min : Vec2 α
  max : Vec2 α
  deriving Repr

namespace Rect

variable {α : Type} [Scalar α]

/-- The rectangle of two opposite corners. -/
def ofCorners (p q : Vec2 α) : Rect α := ⟨p.min q, p.max q⟩

/-- The rectangle that extends by `extent` to every side of `centre`. -/
def around (centre : Vec2 α) (extent : α) : Except Fault (Rect α) :=
  if 0 ≤ extent then .ok ⟨centre - .splat extent, centre + .splat extent⟩
  else .error .negativeExtent

/-- Half of the width and height. -/
def halfSize (r : Rect α) : Vec2 α := (r.max - r.min).scale 0.5

/-- The rectangle grown by `margin` to every side. -/
def inflate (r : Rect α) (margin : α) : Rect α :=
  let low := r.min - .splat margin
  let high := r.max + .splat margin
  ⟨low.min high, high⟩

/-- The point lies in the rectangle, its least sides included and its greatest sides not. -/
def Holds (r : Rect α) (p : Vec2 α) : Prop :=
  r.min.x ≤ p.x ∧ p.x < r.max.x ∧ r.min.y ≤ p.y ∧ p.y < r.max.y

instance (r : Rect α) (p : Vec2 α) : Decidable (r.Holds p) :=
  inferInstanceAs (Decidable (_ ∧ _))

/-- The rectangles have a point in common, sides included. -/
def Touches (r s : Rect α) : Prop :=
  r.min.x ≤ s.max.x ∧ s.min.x ≤ r.max.x ∧ r.min.y ≤ s.max.y ∧ s.min.y ≤ r.max.y

instance (r s : Rect α) : Decidable (r.Touches s) :=
  inferInstanceAs (Decidable (_ ∧ _))

/-- The least rectangle that holds every vertex. -/
def bounding (vertices : List (Vec2 α)) : Rect α :=
  vertices.foldl (fun r v => ⟨r.min.min v, r.max.max v⟩)
    ⟨.splat Scalar.largest, .splat (-Scalar.largest)⟩

end Rect

end Cityscape

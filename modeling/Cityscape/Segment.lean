import Cityscape.Vector

/-!
# Segments

How two straight pieces of the map lie to each other.

## Main definitions

* `Segment.intersect` — where two segments cross, and where the line of the first crosses the
  second.
* `Segment.overlap` — two segments that leave a common end in the same direction.
-/

namespace Cityscape

/-- A straight piece of the map between two ends. -/
structure Segment (α : Type) where
  start : Vec2 α
  finish : Vec2 α
  deriving Repr

/-- What two segments have in common. -/
structure Intersection (α : Type) where
  segments : Option (Vec2 α)
  /-- The point where the line through the first segment crosses the second segment. -/
  lines : Option (Vec2 α)
  deriving Repr

namespace Segment

variable {α : Type} [Scalar α]

open Scalar

/-- The vector from the start of a segment to its end. -/
def span (a : Segment α) : Vec2 α := a.finish - a.start

/-- What segment `a`, and the line through it, has in common with segment `b`. Segments that are
parallel up to the tolerance have nothing in common. -/
def intersect (a b : Segment α) : Intersection α :=
  let r := a.span
  let s := b.span
  let denominator := r.cross s
  if approximately denominator 0 then ⟨none, none⟩
  else
    let offset := b.start - a.start
    let t := offset.cross s / denominator
    let u := offset.cross r / denominator
    let point := a.start + r.scale t
    if within 0 1 u then
      if within 0 1 t then ⟨some point, some point⟩ else ⟨none, some point⟩
    else ⟨none, none⟩

/-- Whether two segments lie on top of each other: they share an end and leave it in the same
direction. -/
def overlap (a b : Segment α) : Bool :=
  let d := a.span.normalizeOrZero.dot b.span.normalizeOrZero
  (a.start == b.start && approximately d 1) || (a.start == b.finish && approximately d (-1)) ||
    (a.finish == b.start && approximately d (-1)) || (a.finish == b.finish && approximately d 1)

end Segment

end Cityscape

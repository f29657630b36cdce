import Cityscape.Vector

/-!
# Trigonometry

The transcendental functions of a number type, and the turns of the map that need them.

## Main definitions

* `Trigonometry` — sine, cosine, tangent, angle and power, with the sizes of a degree and of a turn.
* `Vec2.rotate` — a map direction turned by an angle in degrees.
* `Vec2.ofAngle` — the unit vector at an angle.
* the instance `Trigonometry Float32`.
-/

namespace Cityscape

/-- The transcendental functions of a number type; angles are in radians. -/
class Trigonometry (α : Type) where
  /-- One degree. -/
  degree : α
  /-- A full turn. -/
  turn : α
  sin : α → α
  cos : α → α
  tan : α → α
  /-- The angle of the vector whose height comes first and whose width comes second. -/
  atan2 : α → α → α
  pow : α → α → α

variable {α : Type} [Scalar α] [Trigonometry α]

namespace Trigonometry

/-- An angle in degrees, given in radians. -/
def radians (degrees : α) : α := degrees * degree

end Trigonometry

namespace Vec2

open Trigonometry

/-- A map direction turned by an angle in degrees. The map is seen as the ground of building space,
so a positive angle turns clockwise when north is ahead. -/
def rotate (v : Vec2 α) (degrees : α) : Vec2 α :=
  let angle := radians degrees
  let s := sin angle
  let c := cos angle
  ⟨v.x * c + v.y * s, -v.x * s + v.y * c⟩

/-- The unit vector at an angle from the first axis. -/
def ofAngle (angle : α) : Vec2 α := ⟨cos angle, sin angle⟩

/-- The angle of a vector from the first axis. -/
def angle (v : Vec2 α) : α := atan2 v.y v.x

end Vec2

instance : Trigonometry Float32 where
  degree := Float32.ofBits 0x3c8efa35
  turn := Float32.ofBits 0x40c90fdb
  sin := Float32.sin
  cos := Float32.cos
  tan := Float32.tan
  atan2 := Float32.atan2
  pow := Float32.pow

end Cityscape

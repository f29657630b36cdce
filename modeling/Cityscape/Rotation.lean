import Cityscape.Trigonometry

/-!
# Rotations

Rotations of building space as unit quaternions. A rotation is given by three angles in degrees,
which turn about the `z` axis first, then about `x`, then about `y`.

## Main definitions

* `Rotation` — a quaternion.
* `Rotation.ofAngles` — the rotation of three angles.
* `Rotation.apply` — a vector after a rotation.
-/

namespace Cityscape

/-- A rotation as a quaternion with vector part `(x, y, z)` and scalar part `w`. -/
structure Rotation (α : Type) where
  x : α
  y : α
  z : α
  w : α
  deriving Repr

namespace Rotation

open Trigonometry

variable {α : Type} [Scalar α] [Trigonometry α]

/-- The rotation that turns by `degrees.z` about `z`, then by `degrees.x` about `x`, then by
`degrees.y` about `y`. -/
def ofAngles (degrees : Vec3 α) : Rotation α :=
  let i := radians degrees.y * 0.5
  let j := radians degrees.x * 0.5
  let h := radians degrees.z * 0.5
  let si := sin i
  let ci := cos i
  let sj := sin j
  let cj := cos j
  let sh := sin h
  let ch := cos h
  let cc := ci * ch
  let cs := ci * sh
  let sc := si * ch
  let ss := si * sh
  ⟨cj * ss + sj * cc, cj * sc - sj * cs, cj * cs - sj * sc, cj * cc + sj * ss⟩

def apply (q : Rotation α) (v : Vec3 α) : Vec3 α :=
  let b : Vec3 α := ⟨q.x, q.y, q.z⟩
  (v.scale (q.w * q.w - b.dot b) + b.scale (v.dot b * 2.0)) + (b.cross v).scale (q.w * 2.0)

end Rotation

end Cityscape

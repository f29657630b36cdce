import Cityscape.Scalar

/-!
# Vectors

Points and directions of the map (`Vec2`) and of building space (`Vec3`). Operations are spelled out
in components and in a fixed order, because the order matters to machine numbers.

## Main definitions

* `Vec2`, `Vec3` — vectors with their sums, differences and products.
* `Vec2.dot`, `Vec2.cross`, `Vec2.distance`, `Vec2.normalize`, `Vec2.normalizeOrZero`.
* `Axis`, `Vec3.get`, `Vec3.set` — the three axes and the components along them.
-/

namespace Cityscape

/-- A point or direction on the map. -/
structure Vec2 (α : Type) where
  /-- The component to the east. -/
  x : α
  /-- The component to the north. -/
  y : α
  deriving Repr

/-- A point, direction or extent in building space. -/
structure Vec3 (α : Type) where
  /-- The component along the street. -/
  x : α
  /-- The component upwards. -/
  y : α
  /-- The component away from the street. -/
  z : α
  deriving Repr

variable {α : Type} [Scalar α]

/-! ## Map vectors -/

namespace Vec2

instance : BEq (Vec2 α) := ⟨fun v w => v.x == w.x && v.y == w.y⟩

instance : Zero (Vec2 α) := ⟨⟨0, 0⟩⟩

instance : Add (Vec2 α) := ⟨fun v w => ⟨v.x + w.x, v.y + w.y⟩⟩

instance : Sub (Vec2 α) := ⟨fun v w => ⟨v.x - w.x, v.y - w.y⟩⟩

def splat {α : Type} (a : α) : Vec2 α := ⟨a, a⟩

def scale (v : Vec2 α) (a : α) : Vec2 α := ⟨v.x * a, v.y * a⟩

def divide (v : Vec2 α) (a : α) : Vec2 α := ⟨v.x / a, v.y / a⟩

/-- The product component by component. -/
def stretch (v w : Vec2 α) : Vec2 α := ⟨v.x * w.x, v.y * w.y⟩

protected def min (v w : Vec2 α) : Vec2 α := ⟨Scalar.min v.x w.x, Scalar.min v.y w.y⟩

protected def max (v w : Vec2 α) : Vec2 α := ⟨Scalar.max v.x w.x, Scalar.max v.y w.y⟩

def round (v : Vec2 α) : Vec2 α := ⟨Scalar.round v.x, Scalar.round v.y⟩

def dot (v w : Vec2 α) : α := v.x * w.x + v.y * w.y

/-- The signed area of the parallelogram that two vectors span. -/
def cross (v w : Vec2 α) : α := v.x * w.y - v.y * w.x

def length (v : Vec2 α) : α := Scalar.sqrt (v.dot v)

def distance (v w : Vec2 α) : α := (v - w).length

def normalize (v : Vec2 α) : Vec2 α := v.scale (1 / v.length)

/-- The unit vector of the same direction, or zero for a vector that has none. -/
def normalizeOrZero (v : Vec2 α) : Vec2 α :=
  let factor := 1 / v.length
  if Scalar.isFinite factor ∧ 0 < factor then v.scale factor else 0

end Vec2

/-! ## Axes -/

/-- The axes of building space. -/
inductive Axis
  | x
  | y
  | z
  deriving DecidableEq, Repr

namespace Axis

/-- The axes in their usual order. -/
def all : List Axis := [.x, .y, .z]

/-- The place of an axis in the usual order. -/
def index : Axis → Nat
  | .x => 0
  | .y => 1
  | .z => 2

end Axis

/-! ## Space vectors -/

namespace Vec3

instance : BEq (Vec3 α) := ⟨fun v w => v.x == w.x && v.y == w.y && v.z == w.z⟩

instance : Zero (Vec3 α) := ⟨⟨0, 0, 0⟩⟩

instance : Add (Vec3 α) := ⟨fun v w => ⟨v.x + w.x, v.y + w.y, v.z + w.z⟩⟩

instance : Sub (Vec3 α) := ⟨fun v w => ⟨v.x - w.x, v.y - w.y, v.z - w.z⟩⟩

/-- The component along an axis. -/
def get {α : Type} (v : Vec3 α) : Axis → α
  | .x => v.x
  | .y => v.y
  | .z => v.z

/-- The vector with the component along an axis replaced. -/
def set {α : Type} (v : Vec3 α) (axis : Axis) (a : α) : Vec3 α :=
  match axis with
  | .x => { v with x := a }
  | .y => { v with y := a }
  | .z => { v with z := a }

@[simp] theorem get_set_self {α : Type} (v : Vec3 α) (axis : Axis) (a : α) :
    (v.set axis a).get axis = a := by
  cases axis <;> rfl

theorem get_set_of_ne {α : Type} (v : Vec3 α) {axis other : Axis} (a : α) (h : other ≠ axis) :
    (v.set axis a).get other = v.get other := by
  cases axis <;> cases other <;> first | rfl | exact absurd rfl h

def unit (axis : Axis) : Vec3 α := set 0 axis 1

def scale (v : Vec3 α) (a : α) : Vec3 α := ⟨v.x * a, v.y * a, v.z * a⟩

def stretch (v w : Vec3 α) : Vec3 α := ⟨v.x * w.x, v.y * w.y, v.z * w.z⟩

protected def min (v w : Vec3 α) : Vec3 α :=
  ⟨Scalar.min v.x w.x, Scalar.min v.y w.y, Scalar.min v.z w.z⟩

protected def max (v w : Vec3 α) : Vec3 α :=
  ⟨Scalar.max v.x w.x, Scalar.max v.y w.y, Scalar.max v.z w.z⟩

def dot (v w : Vec3 α) : α := v.x * w.x + v.y * w.y + v.z * w.z

def cross (v w : Vec3 α) : Vec3 α :=
  ⟨v.y * w.z - w.y * v.z, v.z * w.x - w.z * v.x, v.x * w.y - w.x * v.y⟩

def length (v : Vec3 α) : α := Scalar.sqrt (v.dot v)

def normalize (v : Vec3 α) : Vec3 α := v.scale (1 / v.length)

end Vec3

end Cityscape

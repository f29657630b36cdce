import Cityscape.Grammar.Shape

/-!
# Splits

How an extent is shared out among slots, and how a box is cut into slots or covered with tiles.

## Main definitions

* `Slot`, `slotSizes` — absolute slots keep their sizes, relative slots share the rest.
* `OrientedBox.slots` — the consecutive pieces of a box along an axis.
* `tileCount`, `OrientedBox.tiles` — as many equal tiles as are needed to fill a box.
-/

namespace Cityscape.Grammar

variable {α : Type} [Scalar α]

/-! ## Slots -/

/-- A size that is asked for along an axis. -/
structure Slot (α : Type) where
  /-- The size, or the share of what is left over. -/
  value : α
  relative : Bool
  deriving Repr

/-- The sum of the values of the slots of a kind. -/
def slotSum (relative : Bool) (slots : List (Slot α)) : α :=
  Scalar.sum ((slots.filter (·.relative == relative)).map (·.value))

/-- The size of a slot when `rest` is left over for relative slots whose shares sum to `shares`. -/
def Slot.size (rest shares : α) (slot : Slot α) : α :=
  if slot.relative then if shares == 0 then 0 else slot.value * rest / shares else slot.value

/-- The sizes of slots along an extent: absolute slots keep their sizes, and relative slots share
what is left over in proportion to their values. -/
def slotSizes (slots : List (Slot α)) (extent : α) : List α :=
  slots.map (Slot.size (extent - slotSum false slots) (slotSum true slots))

namespace OrientedBox

/-- The pieces of a box of the given sizes along an axis, each starting where the one before ends;
`offset` is where the first one starts along the direction of the axis. -/
def consecutive (p : OrientedBox α) (axis : Axis) (direction : Vec3 α) :
    α → List α → List (OrientedBox α)
  | _, [] => []
  | offset, size :: rest =>
    ⟨⟨p.scope.position + direction.scale offset, p.scope.size.set axis size⟩, p.rotation⟩ ::
      consecutive p axis direction (offset + size) rest

variable [Trigonometry α]

/-- The consecutive pieces of a box along an axis that slots ask for. -/
def slots (p : OrientedBox α) (axis : Axis) (slots : List (Slot α)) : List (OrientedBox α) :=
  p.consecutive axis ((Rotation.ofAngles p.rotation).apply (.unit axis)) 0
    (slotSizes slots (p.scope.size.get axis))

end OrientedBox

/-! ## Tiles -/

/-- The greatest number of tiles of one repetition. -/
def tileLimit : Nat := 100000

/-- How many tiles of about the size `spacing` fill an extent: one when the size is not above zero,
and nothing when they are too many. -/
def tileCount (extent spacing : α) : Option Nat :=
  let count := if 0 < spacing then Scalar.max (Scalar.ceil (extent / spacing)) 1 else 1
  if Scalar.isFinite count ∧ count ≤ Scalar.ofNat tileLimit then some (Scalar.whole count)
  else none

/-- The numbers of tiles along the axes, and the extents of a tile. -/
structure Tiling (α : Type) where
  /-- The number of tiles along the first axis. -/
  countX : Nat
  /-- The number of tiles upwards. -/
  countY : Nat
  /-- The number of tiles along the last axis. -/
  countZ : Nat
  tile : Vec3 α
  deriving Repr

/-- The count and the size of the tiles along an axis: one tile of the whole extent when the axis is
not tiled, and nothing when the tiles are too many. -/
def axisTiling (extent : α) : Option α → Option (Nat × α)
  | none => some (1, extent)
  | some spacing => (tileCount extent spacing).map fun n => (n, extent / Scalar.ofNat n)

/-- The tiles of a box for the spacings along the axes that are tiled; nothing when the tiles are
too many. -/
def tiling (size : Vec3 α) (x y z : Option α) : Option (Tiling α) := do
  let (nx, sx) ← axisTiling size.x x
  let (ny, sy) ← axisTiling size.y y
  let (nz, sz) ← axisTiling size.z z
  if nx * ny * nz ≤ tileLimit then some ⟨nx, ny, nz, ⟨sx, sy, sz⟩⟩ else none

namespace OrientedBox

variable [Trigonometry α]

/-- The tiles of a box: upwards, in each layer along the first axis, in each column along the last
axis. -/
def tiles (p : OrientedBox α) (t : Tiling α) : List (OrientedBox α) :=
  let orientation := Rotation.ofAngles p.rotation
  (List.range t.countY).flatMap fun y =>
    (List.range t.countX).flatMap fun x =>
      (List.range t.countZ).map fun z =>
        let place : Vec3 α := ⟨Scalar.ofNat x, Scalar.ofNat y, Scalar.ofNat z⟩
        ⟨⟨p.scope.position + orientation.apply (place.stretch t.tile), t.tile⟩, p.rotation⟩

end OrientedBox

end Cityscape.Grammar

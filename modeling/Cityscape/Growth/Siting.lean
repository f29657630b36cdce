import Cityscape.Growth.Settings

/-!
# Where a road can lie

Whether a piece of road fits the terrain, and how a proposed road is shortened or turned until it
does.

## Main definitions

* `Land` — the maps of heights and densities that roads grow over.
* `Land.isBuildable` — whether a road fits between two places.
* `Land.adjust` — the first shorter or turned road that fits.
* `Land.settle` — the planned road, or the first adjusted one, that fits.
-/

namespace Cityscape

/-- The maps that roads grow over. -/
structure Land (α : Type) where
  /-- How high the land is; zero is water. -/
  heights : Grid α
  densities : Grid α

namespace Land

variable {α : Type} [Scalar α]

/-- The density at a place, zero outside the map. -/
def densityAt (land : Land α) (p : Vec2 α) : Except Fault α := do
  return (← land.densities.valueAt p).getD 0

/-- Whether the `left` places at whole distances from `j` on are land. -/
def isDryAlong (land : Land α) (start direction : Vec2 α) : Nat → Nat → Except Fault Bool
  | 0, _ => .ok true
  | left + 1, j => do
    if ← land.heights.isWater (start + direction.scale (Scalar.ofNat j)) then return false
    else isDryAlong land start direction left (j + 1)

/-- Whether a road from `start` to `finish` fits the terrain: the rounded end is land inside the
maps and its density exceeds the limit of the road's class, the road has a length, and no place at a
whole distance from its start on the way to the rounded end is water. -/
def isBuildable (land : Land α) (settings : GrowthSettings α) (start finish : Vec2 α)
    (highway : Bool) : Except Fault Bool := do
  let finish := finish.round
  match ← land.heights.valueAt finish with
  | none => return false
  | some h =>
    if h == 0 then return false
    let limit := if highway then settings.highwayDensity else settings.bywayDensity
    match ← land.densities.valueAt finish with
    | none => return false
    | some density =>
      if ¬ limit < density then return false
      if start == finish then return false
      let steps := Min.min (Scalar.whole (Scalar.round (start.distance finish))) halfWordLimit
      isDryAlong land start (finish - start).normalize steps 0

def planEnd (plan : RoadPlan α) (start : Vec2 α) : Vec2 α :=
  start + plan.direction.scale plan.length

/-- What shortening a road leads to. -/
inductive Shortening (α : Type)
  /-- The road fits at this length. -/
  | fits (length : α)
  /-- The road fits at no length above the limit; this is the first length that is not above it. -/
  | exhausted (length : α)

/-- Shortens a road by one cell at a time until it fits or is not longer than the limit. -/
def shorten (land : Land α) (settings : GrowthSettings α) (plan : RoadPlan α) (start : Vec2 α)
    (limit : α) : Nat → α → Except Fault (Shortening α)
  | 0, _ => .error .endless
  | fuel + 1, length => do
    if limit < length then
      if ← land.isBuildable settings start (planEnd { plan with length } start) plan.highway then
        return .fits length
      else shorten land settings plan start limit fuel (length - 1)
    else return .exhausted length

/-- The number of shortenings after which the length no longer changes: single-precision numbers
that differ by one from their neighbours reach from -2²⁴ to 2²⁴, and those that differ by two to
2²⁵. -/
def shorteningLimit : Nat := 0x4000000

variable [Trigonometry α]

/-- Turns a road by the angles from `angle` on, first to the one side and then to the other, until
it fits. -/
def swing (land : Land α) (settings : GrowthSettings α) (plan : RoadPlan α) (start : Vec2 α) :
    Nat → Nat → Except Fault (Option (RoadPlan α))
  | 0, _ => .ok none
  | left + 1, angle => do
    let first := { plan with direction := plan.direction.rotate (Scalar.ofNat angle * 1) }
    if ← land.isBuildable settings start (planEnd first start) plan.highway then return some first
    let second := { plan with direction := plan.direction.rotate (Scalar.ofNat angle * -1) }
    if ← land.isBuildable settings start (planEnd second start) plan.highway then return some second
    swing land settings plan start left (angle + 1)

/-- The first road that fits among the shortenings of a plan and, below the pruning limit, its turns
to both sides. -/
def adjust (land : Land α) (settings : GrowthSettings α) (plan : RoadPlan α) (start : Vec2 α) :
    Except Fault (Option (RoadPlan α)) := do
  let limit := Scalar.round (plan.length * settings.pruning)
  match ← shorten land settings plan start limit shorteningLimit plan.length with
  | .fits length => return some { plan with length }
  | .exhausted length =>
    if length ≤ 0 then return none
    else swing land settings { plan with length } start settings.largestTurn 1

/-- Fits a plan into the terrain: the plan itself, or the first adjusted one that fits. -/
def settle (land : Land α) (settings : GrowthSettings α) (plan : RoadPlan α)
    (start : Vec2 α) : Except Fault (Option (RoadPlan α)) := do
  if ← land.isBuildable settings start (planEnd plan start) plan.highway then
    return some plan
  else land.adjust settings plan start

end Land

end Cityscape

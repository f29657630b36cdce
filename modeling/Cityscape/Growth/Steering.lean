import Cityscape.Grid
import Cityscape.Trigonometry

/-!
# Steering

How a growing road chooses the direction it goes on in.

## Main definitions

* `RoadPlan` — a road that is proposed.
* `Steering` — the rules: towards the most people, or straight on.
* `Steering.rayWeight` — how many people live along a ray.
* `Steering.turn` — the plan with its new direction.
-/

namespace Cityscape

/-- A road that is proposed to start at a crossroad. -/
structure RoadPlan (α : Type) where
  /-- How long it is, in cells. -/
  length : α
  /-- Its direction, of length one. -/
  direction : Vec2 α
  highway : Bool
  deriving Repr

/-- The rules by which a road chooses its direction. -/
inductive Steering (α : Type)
  /-- Looks along rays that are spread over an angle in degrees around the direction, and turns to
  the one along which most people live. -/
  | fan (rays : Nat) (angle : α)
  | straight

namespace Steering

variable {α : Type} [Scalar α]

/-- Adds up the densities at the `steps` whole distances from `j` on, each discounted linearly with
its distance, up to the first that lies off the map. -/
def addDensities (densities : Grid α) (start direction : Vec2 α) (length : α) :
    Nat → Nat → α → Except Fault α
  | 0, _, weight => .ok weight
  | steps + 1, j, weight => do
    match ← densities.valueAt (start + direction.scale (Scalar.ofNat j)) with
    | none => return weight
    | some density =>
      addDensities densities start direction length steps (j + 1)
        (weight + density * (1 - Scalar.ofNat j / length))

/-- How many people live along a ray. -/
def rayWeight (densities : Grid α) (start direction : Vec2 α) (length : α) : Except Fault α :=
  let steps := Min.min (Scalar.whole (Scalar.max length 0)) halfWordLimit
  addDensities densities start direction length steps 0 0

variable [Trigonometry α]

/-- Looks along the `left` rays from the one with number `ray` on; `best` is the direction found so
far and `heaviest` its weight. -/
def scan (densities : Grid α) (start : Vec2 α) (plan : RoadPlan α) (angle step : α) :
    Nat → Nat → Vec2 α → α → Except Fault (Vec2 α)
  | 0, _, best, _ => .ok best
  | left + 1, ray, best, heaviest => do
    let direction := plan.direction.rotate (-angle / 2.0 + step * Scalar.ofNat ray)
    let weight ← rayWeight densities start direction plan.length
    if heaviest < weight then scan densities start plan angle step left (ray + 1) direction weight
    else scan densities start plan angle step left (ray + 1) best heaviest

/-- The plan with the direction that a rule chooses for a road that goes on from `start`. -/
def turn (rule : Steering α) (densities : Grid α) (plan : RoadPlan α) (start : Vec2 α) :
    Except Fault (RoadPlan α) :=
  match rule with
  | straight => .ok plan
  | fan rays angle =>
    if rays = 0 ∨ angle ≤ 0 then .ok plan
    else do
      let step := angle / Scalar.ofNat rays
      let direction ← scan densities start plan angle step rays 0 plan.direction 0
      return { plan with direction }

end Steering

end Cityscape

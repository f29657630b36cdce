import Cityscape.Growth.Steering

/-!
# Settings of road growth

## Main definitions

* `RoadRule` — the steering rules that can be asked for by name.
* `GrowthSettings` — everything that road growth can be told, with its defaults.
-/

namespace Cityscape

/-- The steering rules that can be asked for by name. -/
inductive RoadRule
  /-- Towards the most people. -/
  | basic
  /-- Straight on, which grows a rectangular grid. -/
  | grid
  deriving DecidableEq, Repr

namespace RoadRule

def name : RoadRule → String
  | basic => "basic"
  | grid => "grid"

def ofName? : String → Option RoadRule
  | "basic" => some basic
  | "grid" => some grid
  | _ => none

def steering {α : Type} [Scalar α] : RoadRule → Steering α
  | basic => .fan 5 20.0
  | grid => .straight

end RoadRule

/-- What road growth can be told. -/
structure GrowthSettings (α : Type) where
  /-- The length of a road when it is proposed, in cells. -/
  roadLength : α
  /-- The part of the length below which a road that meets water is turned instead of shortened. -/
  pruning : α
  /-- The largest turn that is tried to avoid water, in degrees. -/
  largestTurn : Nat
  /-- How far around its end a road looks for others to join, as a part of its length. -/
  reach : α
  /-- The rounds that a byway waits before it branches off. -/
  delay : Int
  /-- The chance that a branch is a highway, scaled by the density. -/
  highwayChance : α
  /-- The density that the end of a highway must exceed. -/
  highwayDensity : α
  /-- The density that the end of a byway must exceed. -/
  bywayDensity : α
  highwayThickness : α
  bywayThickness : α
  /-- The number of rounds; with zero, growth goes on until nothing is left to do. -/
  rounds : Nat
  /-- Whether a road that joined the network goes on behind it. -/
  continueAfterMerge : Bool
  rule : RoadRule
  /-- The capacity of the buckets of the spatial index. -/
  capacity : Nat
  seed : UInt64

/-- The settings that hold unless something else is asked for. -/
def GrowthSettings.standard {α : Type} [Scalar α] : GrowthSettings α where
  roadLength := 20.0
  pruning := 0.5
  largestTurn := 30
  reach := 0.5
  delay := 3
  highwayChance := 0.3
  highwayDensity := 0.25
  bywayDensity := 0.1
  highwayThickness := 3.0
  bywayThickness := 1.0
  rounds := 30
  continueAfterMerge := true
  rule := .basic
  capacity := 4
  seed := 42

end Cityscape

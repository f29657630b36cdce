import Cityscape.Building.Catalog

/-!
# Settings of lots

## Main definitions

* `LotSpec` — a rule set and the lot it is meant for.
* `LotSettings` — everything that the placement of buildings can be told, with its defaults.
* `LotSettings.firstModel` — the first model to try for a density.
-/

namespace Cityscape

/-- A rule set and the lot it is meant for. -/
structure LotSpec (α : Type) where
  ruleSet : String
  /-- The width and depth of the lot, in metres. -/
  lot : Vec2 α

/-- What the placement of buildings can be told. -/
structure LotSettings (α : Type) where
  /-- The models, the densest first. -/
  models : List (LotSpec α)
  /-- How far below one the density of each band begins, from the top. -/
  thresholds : List α
  /-- The gap between lots along a road, in cells. -/
  spacing : α
  /-- The least factor by which the density along a highway grows. -/
  highwayAdvantage : α
  /-- The greatest factor by which a density grows. -/
  maxIncrease : α
  /-- The distance from the middle of a highway to its lots, in cells. -/
  highwayClearance : α
  /-- The distance from the middle of a byway to its lots, in cells. -/
  bywayClearance : α
  /-- How many buildings are derived for each model before they are used again. -/
  cacheSize : Nat
  /-- The number of cells in a metre. -/
  scale : α
  /-- The capacity of the buckets of the obstacle index. -/
  capacity : Nat
  seed : UInt64

namespace LotSettings

variable {α : Type} [Scalar α]

def standard : LotSettings α where
  models := [⟨Catalog.officeTowerName, ⟨16.0, 16.0⟩⟩, ⟨Catalog.apartmentBlockName, ⟨14.0, 12.0⟩⟩,
    ⟨Catalog.residentialHouseName, ⟨10.0, 8.0⟩⟩]
  thresholds := [0.25, 0.55]
  spacing := 1
  highwayAdvantage := 0.8
  maxIncrease := 1.4
  highwayClearance := 2.0
  bywayClearance := 1
  cacheSize := 4
  scale := 0.25
  capacity := 8
  seed := 7

/-- The number of the band that a density falls into: the band of a threshold reaches from one less
the threshold, which is not part of it, up to the lower end of the band before, which is; the band
that is left lies below all of them. -/
def bandOf (density : α) : List α → Option α → Nat
  | [], _ => 0
  | threshold :: rest, upper =>
    let lower := 1 - threshold
    if lower < density ∧ upper.all (fun u => decide (density ≤ u)) then 0
    else bandOf density rest (some lower) + 1

/-- The first model to try for a density. -/
def firstModel (settings : LotSettings α) (density : α) : Nat :=
  bandOf density settings.thresholds none

end LotSettings

end Cityscape

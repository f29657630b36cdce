import Cityscape.City
import Cityscape.Growth
import Cityscape.Lots
import Cityscape.Notice

/-!
# Construction

A city under construction. Requests for roads come in at any time and wait for the next update. An
update has two phases: one grows a network for every request that waits, of which the last stays;
the other lines the roads with buildings, once, as soon as there is a network.

## Main definitions

* `Construction` — the state of a city.
* `Construction.request` — asks for roads.
* `Construction.growRoads`, `Construction.placeBuildings` — the phases.
* `Construction.update` — both phases, in one order or the other.
* `Progress` — what was reported, and the state after it unless there was a fault.
-/

namespace Cityscape

/-- A city under construction. -/
structure Construction (α : Type) where
  site : Option (CitySite α)
  growth : GrowthSettings α
  lots : LotSettings α
  workshop : Workshop α
  /-- The requests for roads that wait, each with the direction asked for, the oldest first. -/
  requests : List (Option (Vec2 α))
  network : RoadNetwork α
  roadsGrown : Bool
  buildings : Array (PlacedBuilding α)
  /-- Whether the placement of buildings was tried. -/
  buildingsTried : Bool

/-- What was reported, and the state after it unless there was a fault. -/
structure Progress (α : Type) where
  notices : List (Notice α)
  result : Except Fault (Construction α)

/-- Goes on from the state that was reached. -/
def Progress.andThen {α : Type} (p : Progress α) (next : Construction α → Progress α) :
    Progress α :=
  match p with
  | ⟨notices, .ok c⟩ => ⟨notices ++ (next c).notices, (next c).result⟩
  | ⟨notices, .error fault⟩ => ⟨notices, .error fault⟩

namespace Construction

variable {α : Type}

/-- A city before anything was asked for. -/
def start (site : Option (CitySite α)) (growth : GrowthSettings α) (lots : LotSettings α)
    (workshop : Workshop α) : Construction α where
  site := site
  growth := growth
  lots := lots
  workshop := workshop
  requests := []
  network := .empty
  roadsGrown := false
  buildings := #[]
  buildingsTried := false

/-- Asks for roads, the first of which may be given a direction. -/
def request (c : Construction α) (direction : Option (Vec2 α)) : Construction α :=
  { c with requests := c.requests ++ [direction] }

/-- Gives the city its land. -/
def settle (c : Construction α) (site : CitySite α) : Construction α := { c with site := some site }

def partCount (c : Construction α) : Nat :=
  c.buildings.foldl (fun n b => n + b.building.parts.size) 0

variable [Scalar α] [Trigonometry α]

/-- Grows roads on a site. -/
def growOn (site : CitySite α) (settings : GrowthSettings α) (direction : Option (Vec2 α)) :
    Except Fault (Growth α) := do
  let growth := Growth.start ⟨site.heights, site.densities⟩ (← site.bounds) settings
  growth.generate site.centre direction

/-- Answers one request for roads: a new network takes the place of the one before. Without land
the request is dropped. -/
def answer (c : Construction α) (direction : Option (Vec2 α)) : Progress α :=
  match c.site with
  | none => ⟨[.roadsWithoutLand], .ok c⟩
  | some site =>
    match growOn site c.growth direction with
    | .error fault => ⟨[.roadsBegin], .error fault⟩
    | .ok growth =>
      let network := growth.map.network
      ⟨[.roadsBegin, .roadsDone network.size growth.stats],
        .ok { c with network, roadsGrown := true }⟩

def answerAll : List (Option (Vec2 α)) → Construction α → Progress α
  | [], c => ⟨[], .ok c⟩
  | direction :: rest, c => (c.answer direction).andThen (answerAll rest)

/-- Grows roads for every request that waits. -/
def growRoads (c : Construction α) : Progress α := answerAll c.requests { c with requests := [] }

/-- Lines the roads of a network with buildings inside given bounds. -/
def lineIn (c : Construction α) (site : CitySite α) (bounds : Rect α) : Site.Walk α :=
  (Placement.start site.heights site.densities c.lots).place c.network
    (.ofNetwork c.network bounds c.lots.capacity) c.workshop

/-- Lines the roads with buildings on a site. When that is refused, no building is placed. -/
def buildOn (c : Construction α) (site : CitySite α) : Progress α :=
  let begun := Notice.buildingsBegin c.network.roadCount
  match site.bounds.map (c.lineIn site) with
  | .error fault => ⟨[begun], .error fault⟩
  | .ok (after, none) =>
    let derived := List.zipWith (fun spec count => Notice.buildingsDerived spec.ruleSet count)
      c.lots.models after.placement.cached
    ⟨begun :: derived ++ [.buildingsDone after.placed.size],
      .ok { c with workshop := after.workshop, buildings := after.placed }⟩
  | .ok (after, some (.refused error)) =>
    ⟨[begun, .buildingsRefused error], .ok { c with workshop := after.workshop }⟩
  | .ok (_, some (.fault fault)) => ⟨[begun], .error fault⟩

/-- Lines the roads with buildings, if there are roads and it was not tried before. -/
def placeBuildings (c : Construction α) : Progress α :=
  if c.roadsGrown && !c.buildingsTried then
    let c := { c with buildingsTried := true }
    match c.site with
    | none => ⟨[.buildingsWithoutLand], .ok c⟩
    | some site => c.buildOn site
  else ⟨[], .ok c⟩

/-- Both phases of an update, roads first or buildings first. -/
def update (c : Construction α) (roadsFirst : Bool) : Progress α :=
  if roadsFirst then c.growRoads.andThen placeBuildings
  else c.placeBuildings.andThen growRoads

end Construction

end Cityscape

import Cityscape.Grid
import Cityscape.Lots.Obstacles
import Cityscape.Lots.Settings

/-!
# Lots and buildings along roads

Buildings line both sides of every road. A walk along a side proposes lots at places that a spacing
separates. The density at a place, enlarged at random, tells which model to try first; a lot that is
too long for the road, touches water or collides with an obstacle is left to the next model. For
each model a few buildings are derived and then used again.

## Main definitions

* `PlacedBuilding` — a building on its lot.
* `Placement` — the source of chance and the buildings derived so far.
* `Site` — everything that a walk changes.
* `Site.step`, `Site.walk`, `Site.lineRoads` — one place, one side of a road, all roads.
* `Placement.place` — lines every road of a network with buildings.
-/

namespace Cityscape

open Grammar

/-- A building on its lot. -/
structure PlacedBuilding (α : Type) where
  ruleSet : String
  /-- The corner of the lot where the walk along the road came to it. -/
  origin : Vec2 α
  footprint : Footprint α
  /-- The direction of the front, as an angle from the first axis of the map. -/
  heading : α
  /-- The number of cells in a metre. -/
  scale : α
  /-- The road it faces. -/
  road : RoadId
  /-- The place of its model among the models. -/
  entry : Nat
  /-- The place of its building among the buildings derived for the model. -/
  copy : Nat
  building : Building α

/-- The state of the placement of buildings. -/
structure Placement (α : Type) where
  heights : Grid α
  densities : Grid α
  settings : LotSettings α
  stream : RandomStream
  /-- The buildings derived for each model. -/
  cache : Array (Array (Building α))

/-- Everything that a walk along a road changes. -/
structure Site (α : Type) where
  placement : Placement α
  /-- What lots must not collide with. -/
  obstacles : Obstacles α
  workshop : Workshop α
  placed : Array (PlacedBuilding α)

namespace Placement

variable {α : Type} [Scalar α]

/-- The placement of a seed, before any building was derived. -/
def start (heights densities : Grid α) (settings : LotSettings α) : Placement α where
  heights := heights
  densities := densities
  settings := settings
  stream := .ofSeed settings.seed
  cache := .replicate settings.models.length #[]

omit [Scalar α] in
/-- The number of buildings derived for each model. -/
def cached (p : Placement α) : List Nat := p.cache.toList.map Array.size

/-- The random factor by which a density grows. -/
def boost (p : Placement α) (highway : Bool) : Except Fault (α × Placement α) :=
  let most := p.settings.maxIncrease
  let least := if highway then Scalar.min p.settings.highwayAdvantage most else 0
  if most ≤ least then .ok (least, p)
  else do
    let (factor, stream) ← p.stream.below least most
    return (factor, { p with stream })

/-- Whether a corner of a footprint is on water. -/
def onWater (heights : Grid α) : List (Vec2 α) → Except Fault Bool
  | [] => .ok false
  | c :: rest => do if ← heights.isWater c then return true else onWater heights rest

/-- A place on one side of a road. -/
structure Spot (α : Type) where
  road : RoadId
  highway : Bool
  /-- Where the walk along the road started. -/
  origin : Vec2 α
  /-- The direction of the walk. -/
  along : Vec2 α
  /-- The direction away from the road. -/
  side : Vec2 α
  length : α
  /-- The distance from the middle of the road to the lots. -/
  clearance : α

/-- The first model from a given one on whose lot fits at a place, with its footprint, and how far
the lot that was tried last extends along the road. -/
def choose (p : Placement α) (o : Obstacles α) (spot : Spot α) (corner : Vec2 α) (distance : α) :
    List (Nat × LotSpec α) → α → Except Fault (Option (Nat × Footprint α) × α)
  | [], advance => .ok (none, advance)
  | (entry, spec) :: rest, _ => do
    let lot := spec.lot.scale p.settings.scale
    if spot.length < distance + lot.x then choose p o spot corner distance rest lot.x
    else
      let footprint := Footprint.ofSides corner spot.along spot.side lot
      if ← onWater p.heights footprint.corners then choose p o spot corner distance rest lot.x
      else if o.isBlocked footprint spot.road then choose p o spot corner distance rest lot.x
      else return (some (entry, footprint), lot.x)

end Placement

namespace Site

open Placement

variable {α : Type} [Scalar α] [Trigonometry α]

/-- The state of a walk, and why it stopped if it did not go on to its end. -/
abbrev Walk (α : Type) := Site α × Option (Stop (GrammarError α))

/-- A building for a model: one of those derived before, drawn at random, or a new one as long as
there are fewer than may be derived. Gives its place among the buildings of the model. -/
def building (s : Site α) (entry : Nat) (spec : LotSpec α) :
    Except (Stop (GrammarError α)) (Nat × Building α) × Site α :=
  let buildings := s.placement.cache.getD entry #[]
  if Max.max s.placement.settings.cacheSize 1 ≤ buildings.size then
    match s.placement.stream.pick buildings.size with
    | .error fault => (.error (.fault fault), s)
    | .ok (copy, stream) =>
      let s := { s with placement := { s.placement with stream } }
      match buildings[copy]? with
      | some b => (.ok (copy, b), s)
      | none => (.error (.fault .outOfRange), s)
  else
    match s.workshop.generate spec.ruleSet spec.lot with
    | (.error stop, workshop) => (.error stop, { s with workshop })
    | (.ok b, workshop) =>
      let cache := s.placement.cache.modify entry (·.push b)
      (.ok (buildings.size, b), { s with workshop, placement := { s.placement with cache } })

/-- Puts a building for a model on a lot. -/
def putBuilding (s : Site α) (spot : Spot α) (corner : Vec2 α) (entry : Nat)
    (footprint : Footprint α) : Walk α :=
  match s.placement.settings.models[entry]? with
  | none => (s, some (.fault .outOfRange))
  | some spec =>
    match s.building entry spec with
    | (.error stop, s) => (s, some stop)
    | (.ok (copy, b), s) =>
      ({ s with
        obstacles := s.obstacles.reserve footprint
        placed := s.placed.push ⟨spec.ruleSet, corner, footprint, spot.along.angle,
          s.placement.settings.scale, spot.road, entry, copy, b⟩ }, none)

/-- What is proposed at a distance along a road: the lot that fits, and how far it extends. -/
def propose (s : Site α) (spot : Spot α) (corner : Vec2 α) (distance : α) :
    Except Fault ((Option (Nat × Footprint α) × α) × Placement α) := do
  let there := (← s.placement.densities.valueAt corner).getD 0
  let (factor, p) ← s.placement.boost spot.highway
  let first := p.settings.firstModel (there * factor)
  let models := p.settings.models.zipIdx.map fun (spec, entry) => (entry, spec)
  let found ← p.choose s.obstacles spot corner distance (models.drop first) p.settings.spacing
  return (found, p)

/-- Tries one place, and gives the distance of the next. -/
def step (s : Site α) (spot : Spot α) (distance : α) : Walk α × α :=
  let corner := spot.origin + spot.along.scale distance + spot.side.scale spot.clearance
  match s.propose spot corner distance with
  | .error fault => ((s, some (.fault fault)), distance)
  | .ok ((chosen, advance), placement) =>
    let next := distance + (advance + placement.settings.spacing)
    let s := { s with placement }
    match chosen with
    | none => ((s, none), next)
    | some (entry, footprint) => (s.putBuilding spot corner entry footprint, next)

/-- Tries places along one side of a road until its end. -/
def walk (spot : Spot α) : Nat → α → Site α → Walk α
  | 0, _, s => (s, some (.fault .endless))
  | fuel + 1, distance, s =>
    if distance < spot.length then
      match s.step spot distance with
      | ((s, none), next) => walk spot fuel next s
      | ((s, some stop), _) => (s, some stop)
    else (s, none)

/-- The number of places after which a walk is given up; there are no more numbers than that. -/
def walkLimit : Nat := 0x100000000

/-- Lines one side of a road, walking from one end to the other. -/
def lineSide (s : Site α) (road : RoadId) (highway : Bool) (start finish : Vec2 α) : Walk α :=
  let length := start.distance finish
  if length ≤ 0 then (s, none)
  else
    let settings := s.placement.settings
    let along := (finish - start).divide length
    let spot : Spot α :=
      ⟨road, highway, start, along, along.rotate 90.0, length,
        if highway then settings.highwayClearance else settings.bywayClearance⟩
    walk spot walkLimit settings.spacing s

def lineRoad (network : RoadNetwork α) (s : Site α) (road : RoadId) (highway : Bool) : Walk α :=
  match network.segment? road with
  | none => (s, none)
  | some ends =>
    match s.lineSide road highway ends.start ends.finish with
    | (s, none) => s.lineSide road highway ends.finish ends.start
    | stopped => stopped

def lineRoads (network : RoadNetwork α) : List (RoadId × Road α) → Site α → Walk α
  | [], s => (s, none)
  | (id, road) :: rest, s =>
    match lineRoad network s id road.highway with
    | (s, none) => lineRoads network rest s
    | stopped => stopped

end Site

namespace Placement

variable {α : Type} [Scalar α] [Trigonometry α]

/-- Lines every road of a network with buildings. -/
def place (p : Placement α) (network : RoadNetwork α) (obstacles : Obstacles α)
    (workshop : Workshop α) : Site.Walk α :=
  let site : Site α := ⟨p, obstacles, workshop, #[]⟩
  if p.settings.models.isEmpty then (site, none) else Site.lineRoads network network.roads site

end Placement

end Cityscape

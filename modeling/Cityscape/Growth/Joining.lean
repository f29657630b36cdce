import Cityscape.Growth.Siting
import Cityscape.RoadMap

/-!
# Joining the network

How a proposed road is fitted into the road map. A road that would cross another ends there and
splits it; otherwise it may be drawn to a crossroad or to a road near its end.

## Main definitions

* `Surroundings` — what lies near a proposed road.
* `Surroundings.ending` — where the road is to end.
* `Verdict`, `Outcome` — what became of a proposed road.
* `RoadMap.build` — fits a road into the map, or leaves the map as it is.
-/

namespace Cityscape

/-- What lies near a proposed road. -/
structure Surroundings (α : Type) where
  /-- The crossing of another road that lies nearest to the start, that road, and the distance. -/
  crossing : Option (Vec2 α × RoadId × α)
  /-- The road whose midpoint lies nearest to the end, and the distance. -/
  road : Option (RoadId × α)
  /-- The crossroad that lies nearest to the end, and the distance. -/
  crossroad : Option (CrossroadId × α)

/-- Where a road is to end. -/
inductive Ending (α : Type)
  /-- At a new crossroad. -/
  | fresh (position : Vec2 α)
  /-- At a new crossroad that splits a road. -/
  | split (position : Vec2 α) (road : RoadId)
  /-- At an existing crossroad. -/
  | existing (crossroad : CrossroadId)

/-- What became of a proposed road. -/
inductive Verdict
  /-- It was built up to a new crossroad of its own. -/
  | succeeded
  /-- It was built and joins the network. -/
  | merged
  | failed
  deriving DecidableEq, Repr

/-- What became of a proposed road, in detail. -/
structure Outcome (α : Type) where
  verdict : Verdict
  /-- The crossroad it ends at. -/
  finish : Option CrossroadId
  road : Option RoadId
  /-- The plan after it was fitted into the terrain. -/
  plan : RoadPlan α

/-- A plan that was not built. -/
def Outcome.failed {α : Type} (plan : RoadPlan α) : Outcome α := ⟨.failed, none, none, plan⟩

namespace Surroundings

variable {α : Type} [Scalar α]

def none {α : Type} : Surroundings α := ⟨.none, .none, .none⟩

/-- Whether a distance is smaller than the one found so far. -/
def isCloser (distance : α) : Option α → Bool
  | .none => true
  | some found => decide (distance < found)

/-- Takes an entry of the index into account. The crossroad the road starts at does not count, nor
does a crossing at one of the road's own ends. -/
def add (network : RoadNetwork α) (start : CrossroadId) (proposed : Segment α) (radius : α)
    (near : Surroundings α) : MapItem α → Surroundings α
  | .crossroad id position =>
    if id = start then near
    else
      let distance := proposed.finish.distance position
      if distance ≤ radius ∧ isCloser distance (near.crossroad.map (·.2)) then
        { near with crossroad := some (id, distance) }
      else near
  | .road id midpoint =>
    match network.segment? id with
    | .none => near
    | some other =>
      let crossing := (proposed.intersect other).segments.filter fun point =>
        point != proposed.start && point != proposed.finish
      match crossing with
      | some point =>
        let distance := proposed.start.distance point
        if isCloser distance (near.crossing.map (·.2.2)) then
          { near with crossing := some (point, id, distance) }
        else near
      | .none =>
        let distance := proposed.finish.distance midpoint
        if distance ≤ radius ∧ isCloser distance (near.road.map (·.2)) then
          { near with road := some (id, distance) }
        else near

/-- Where the line through a proposed road meets another road, if that lies ahead of its start. -/
def lineHit (network : RoadNetwork α) (proposed : Segment α) (road : RoadId) : Option (Vec2 α) := do
  let other ← network.segment? road
  (proposed.intersect other).lines.filter fun point =>
    decide (0 < (point - proposed.start).dot proposed.span)

/-- Where a proposed road is to end. A crossing comes first. Otherwise a crossroad near the end is
taken, unless a road lies nearer and the prolonged road meets it near the end. -/
def ending (network : RoadNetwork α) (proposed : Segment α) (radius : α) (near : Surroundings α) :
    Ending α :=
  match near.crossing, near.road, near.crossroad with
  | some (point, road, _), _, _ => .split point road
  | .none, .none, .none => .fresh proposed.finish
  | .none, some (road, _), .none =>
    match lineHit network proposed road with
    | some point =>
      if point.distance proposed.finish ≤ radius then .split point road else .fresh proposed.finish
    | .none => .fresh proposed.finish
  | .none, .none, some (crossroad, _) => .existing crossroad
  | .none, some (road, roadDistance), some (crossroad, crossroadDistance) =>
    match lineHit network proposed road with
    | some point =>
      if point != proposed.finish ∧ roadDistance < crossroadDistance ∧
          point.distance proposed.finish ≤ radius then .split point road
      else .existing crossroad
    | .none => .existing crossroad

end Surroundings

namespace RoadMap

variable {α : Type} [Scalar α]

/-- What lies near a proposed road: entries are looked up within `reach` of its end. -/
def surroundings (m : RoadMap α) (start : CrossroadId) (proposed : Segment α) (radius reach : α) :
    Except Fault (Surroundings α) := do
  let area ← Rect.around proposed.finish reach
  return (m.index.query area).foldl (Surroundings.add m.network start proposed radius) .none

/-- Makes the end of a road: its crossroad, whether it joins the network there, and the map with
it. Nothing when a split is refused or the road would lie on top of another. -/
def makeEnd (m : RoadMap α) (start : CrossroadId) (minimum : α) :
    Ending α → Except Fault (Option (CrossroadId × Bool × RoadMap α))
  | .fresh position =>
    let (id, m) := m.addCrossroad position
    .ok (some (id, false, m))
  | .split position road => do
    match ← m.splitRoad position road minimum with
    | some (id, m) => return some (id, true, m)
    | none => return none
  | .existing crossroad =>
    if m.network.overlapsRoad start crossroad then .ok none else .ok (some (crossroad, true, m))

/-- Joins a plan that fits the terrain to the network, or leaves the map as it is. -/
def join (m : RoadMap α) (settings : GrowthSettings α) (plan : RoadPlan α) (start : CrossroadId)
    (proposed : Segment α) : Except Fault (Outcome α × RoadMap α) := do
  let radius := Scalar.round (plan.length * settings.reach)
  let near ← m.surroundings start proposed radius plan.length
  match ← m.makeEnd start (radius / 2.0) (near.ending m.network proposed radius) with
  | none => return (.failed plan, m)
  | some (finish, merged, m) =>
    let (road, m) ← m.addRoad start finish plan.highway
    return (⟨if merged then .merged else .succeeded, some finish, some road, plan⟩, m)

variable [Trigonometry α]

/-- Fits a proposed road into the terrain and the network and builds it, or leaves the map as it
is. -/
def build (m : RoadMap α) (land : Land α) (settings : GrowthSettings α) (plan : RoadPlan α)
    (start : CrossroadId) : Except Fault (Outcome α × RoadMap α) := do
  match m.network.position? start with
  | none => return (.failed plan, m)
  | some origin =>
    match ← land.settle settings plan origin with
    | none => return (.failed plan, m)
    | some plan => m.join settings plan start ⟨origin, Land.planEnd plan origin⟩

end RoadMap

end Cityscape

import Cityscape.Footprint
import Cityscape.Quadtree
import Cityscape.RoadNetwork

/-!
# Obstacles

What a new lot must not collide with: roads, which are indexed by their midpoints, and lots, which
are indexed by their centres. Queries are widened by the greatest distance from such a point to the
rest of its road or lot.

## Main definitions

* `Obstacle` — an entry of the index.
* `Obstacles` — the index, the lots and the reach.
* `Obstacles.ofNetwork`, `Obstacles.reserve` — the roads of a network, and one more lot.
* `Obstacles.isBlocked` — whether a footprint collides with anything but its own road.
-/

namespace Cityscape

/-- An entry of the obstacle index. -/
inductive Obstacle (α : Type)
  | road (id : RoadId) (segment : Segment α)
  /-- A lot, by its place among the lots. -/
  | lot (index : Nat) (centre : Vec2 α)

instance {α : Type} [Scalar α] : Positioned α (Obstacle α) where
  position
    | .road _ s => (s.start + s.finish).divide 2.0
    | .lot _ c => c

/-- What a new lot must not collide with. -/
structure Obstacles (α : Type) where
  index : Quadtree α (Obstacle α)
  /-- The lots in the order in which they were reserved. -/
  lots : Array (Footprint α)
  /-- The greatest distance from an indexed point to the rest of what it stands for. -/
  reach : α

namespace Obstacles

variable {α : Type} [Scalar α]

def addRoad (network : RoadNetwork α) (o : Obstacles α) (id : RoadId) : Obstacles α :=
  match network.segment? id with
  | some s =>
    { o with
      reach := Scalar.max o.reach (s.start.distance s.finish / 2.0)
      index := o.index.insert (.road id s) }
  | none => o

def ofNetwork (network : RoadNetwork α) (bounds : Rect α) (capacity : Nat) : Obstacles α :=
  network.roads.foldl (fun o (id, _) => o.addRoad network id) ⟨.empty capacity bounds, #[], 0⟩

/-- Whether a footprint collides with an obstacle other than the road `host`. -/
def collides (o : Obstacles α) (footprint : Footprint α) (host : RoadId) : Obstacle α → Bool
  | .road id s => id != host && footprint.meets s
  | .lot index _ =>
    match o.lots[index]? with
    | some lot => footprint.overlaps lot
    | none => false

/-- Whether a footprint collides with anything but the road it faces. -/
def isBlocked (o : Obstacles α) (footprint : Footprint α) (host : RoadId) : Bool :=
  (o.index.query (footprint.bounds.inflate o.reach)).any (o.collides footprint host)

def reserve (o : Obstacles α) (footprint : Footprint α) : Obstacles α :=
  let centre := footprint.centre
  let radius := footprint.corners.foldl (fun r c => Scalar.max r (c.distance centre)) 0
  { index := o.index.insert (.lot o.lots.size centre)
    lots := o.lots.push footprint
    reach := Scalar.max o.reach radius }

end Obstacles

end Cityscape

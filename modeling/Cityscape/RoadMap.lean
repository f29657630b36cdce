import Cityscape.Quadtree
import Cityscape.RoadNetwork

/-!
# Road maps

A road network together with a spatial index of its crossroads and roads. Crossroads are indexed by
where they lie and roads by their midpoints.

## Main definitions

* `MapItem` — an entry of the index.
* `RoadMap` — the network and its index.
* `RoadMap.addCrossroad`, `RoadMap.addRoad`, `RoadMap.removeRoad` — changes of both.
* `RoadMap.splitRoad` — a new crossroad on a road.
* `RoadNetwork.overlapsRoad` — whether a road would lie on top of another.
-/

namespace Cityscape

/-- An entry of the spatial index. -/
inductive MapItem (α : Type)
  | crossroad (id : CrossroadId) (position : Vec2 α)
  | road (id : RoadId) (midpoint : Vec2 α)

namespace MapItem

variable {α : Type}

instance : Positioned α (MapItem α) where
  position
    | crossroad _ p => p
    | road _ p => p

instance [Scalar α] : BEq (MapItem α) where
  beq
    | crossroad a p, crossroad b q => a == b && p == q
    | road a p, road b q => a == b && p == q
    | _, _ => false

end MapItem

/-- A road network with its spatial index. -/
structure RoadMap (α : Type) where
  network : RoadNetwork α
  index : Quadtree α (MapItem α)

namespace RoadMap

variable {α : Type}

def empty (capacity : Nat) (bounds : Rect α) : RoadMap α := ⟨.empty, .empty capacity bounds⟩

def clear (m : RoadMap α) : RoadMap α := ⟨.empty, m.index.clear⟩

variable [Scalar α]

def addCrossroad (m : RoadMap α) (position : Vec2 α) : CrossroadId × RoadMap α :=
  let (id, network) := m.network.addCrossroad position
  (id, ⟨network, m.index.insert (.crossroad id position)⟩)

def addRoad (m : RoadMap α) (start finish : CrossroadId) (highway : Bool) :
    Except Fault (RoadId × RoadMap α) := do
  let (id, network) ← m.network.addRoad start finish highway
  match network.road? id with
  | some road => return (id, ⟨network, m.index.insert (.road id road.midpoint)⟩)
  | none => return (id, { m with network })

def removeRoad (m : RoadMap α) (id : RoadId) : RoadMap α :=
  match m.network.removeRoad? id with
  | some (road, network) => ⟨network, m.index.erase (.road id road.midpoint)⟩
  | none => m

/-- Puts a new crossroad on a road, which is replaced by its two sections. Refused when the place is
an end of the road or one of the sections would be no longer than `minimum`. -/
def splitRoad (m : RoadMap α) (place : Vec2 α) (id : RoadId) (minimum : α) :
    Except Fault (Option (CrossroadId × RoadMap α)) :=
  match m.network.segment? id, m.network.road? id with
  | some ends, some road =>
    if place == ends.start || place == ends.finish then .ok none
    else if ends.start.distance place ≤ minimum ∨ place.distance ends.finish ≤ minimum then .ok none
    else do
      let (crossroad, m) := (m.removeRoad id).addCrossroad place
      let (_, m) ← m.addRoad road.start crossroad road.highway
      let (_, m) ← m.addRoad crossroad road.finish road.highway
      return some (crossroad, m)
  | _, _ => .ok none

end RoadMap

namespace RoadNetwork

variable {α : Type} [Scalar α]

/-- Whether a road from `start` to the crossroad `finish` would have no length, join crossroads that
are joined already, or lie on top of a road at `finish`. -/
def overlapsRoad (n : RoadNetwork α) (start finish : CrossroadId) : Bool :=
  match n.position? start, n.position? finish with
  | some a, some b =>
    a == b || (n.findRoad start finish).isSome ||
      (n.roadsAt finish).any fun id =>
        match n.segment? id with
        | some other => Segment.overlap ⟨a, b⟩ other
        | none => false
  | _, _ => true

end RoadNetwork

end Cityscape

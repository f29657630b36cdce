import Cityscape.Fault
import Cityscape.RoadNetwork.Consistent

/-!
# Road networks

Crossroads joined by straight roads. Two crossroads may be joined by several roads, and a road may
lead back to where it starts. Crossroads are numbered as they are added. A road takes the number of
the road that was removed last and whose number is still unused, or else the next new number.

## Main definitions

* `RoadNetwork` — the crossroads and roads by their numbers.
* `RoadNetwork.addCrossroad`, `RoadNetwork.addRoad`, `RoadNetwork.removeRoad` — changes.
* `RoadNetwork.roadsAt`, `RoadNetwork.findRoad` — the roads at a crossroad, newest first.
* `RoadNetwork.roads` — every road.
* `RoadNetwork.strokes` — the network as thick lines.
-/

namespace Cityscape

/-- A road as a thick line to draw. -/
structure Stroke (α : Type) where
  start : Vec2 α
  finish : Vec2 α
  /-- Red, green, blue and opacity. -/
  colour : α × α × α × α
  thickness : α
  highway : Bool

/-- Crossroads and the roads between them. -/
structure RoadNetwork (α : Type) where
  /-- The crossroads by number. -/
  crossroads : Array (Crossroad α)
  /-- The roads by number; a removed road leaves a gap. -/
  slots : Array (Option (Road α))
  /-- The numbers of removed roads that were not used again, last removed first. -/
  vacant : List RoadId
  consistent : RoadNetwork.Consistent crossroads slots vacant

namespace RoadNetwork

variable {α : Type}

def empty : RoadNetwork α := ⟨#[], #[], [], .empty⟩

/-! ## Looking up -/

def crossroad? (n : RoadNetwork α) (id : CrossroadId) : Option (Crossroad α) := n.crossroads[id]?

def position? (n : RoadNetwork α) (id : CrossroadId) : Option (Vec2 α) :=
  (n.crossroad? id).map (·.position)

def road? (n : RoadNetwork α) (id : RoadId) : Option (Road α) := n.slots[id]?.join

/-- The ends of the road with a given number. -/
def segment? (n : RoadNetwork α) (id : RoadId) : Option (Segment α) := do
  let road ← n.road? id
  return ⟨← n.position? road.start, ← n.position? road.finish⟩

/-- The roads at a crossroad: first those that start there, then those that end there, each part
newest first. -/
def roadsAt (n : RoadNetwork α) (id : CrossroadId) : List RoadId :=
  match n.crossroad? id with
  | some c => c.starting ++ c.ending
  | none => []

/-- The first road at `a`, in the order of `roadsAt`, whose other end is `b`. -/
def findRoad (n : RoadNetwork α) (a b : CrossroadId) : Option RoadId :=
  (n.roadsAt a).find? fun id =>
    match n.road? id with
    | some road => if road.start = a then road.finish = b else road.start = b
    | none => false

/-- The roads with their numbers, in the order of the numbers. -/
def roads (n : RoadNetwork α) : List (RoadId × Road α) :=
  n.slots.toList.zipIdx.filterMap fun (slot, id) => slot.map (id, ·)

def crossroadCount (n : RoadNetwork α) : Nat := n.crossroads.size

def roadCount (n : RoadNetwork α) : Nat := n.slots.countP Option.isSome

def highwayCount (n : RoadNetwork α) : Nat := (n.roads.filter (·.2.highway)).length

/-! ## Changing -/

/-- Adds a crossroad and gives its number. -/
def addCrossroad (n : RoadNetwork α) (position : Vec2 α) : CrossroadId × RoadNetwork α :=
  (n.crossroads.size, { n with
    crossroads := n.crossroads.push ⟨position, [], []⟩
    consistent := n.consistent.addCrossroad position })

/-- The number that the next road takes. -/
def nextId (n : RoadNetwork α) : RoadId := n.vacant.head?.getD n.slots.size

theorem nextId_le (n : RoadNetwork α) : n.nextId ≤ n.slots.size := by
  unfold nextId
  cases h : n.vacant with
  | nil => exact Nat.le_refl _
  | cons id rest =>
    have hgap := (n.consistent.vacant.2 id).1 (by simp [h])
    exact Nat.le_of_lt (Array.getElem?_eq_some_iff.1 hgap).1

theorem slot_nextId (n : RoadNetwork α) (road : Road α) :
    n.slots[n.nextId]? ≠ some (some road) := by
  unfold nextId
  cases h : n.vacant with
  | nil => simp
  | cons id rest =>
    have hgap := (n.consistent.vacant.2 id).1 (by simp [h])
    simp [hgap]

theorem names_tail_vacant (n : RoadNetwork α) :
    Names n.vacant.tail fun j => j ≠ n.nextId ∧ n.slots[j]? = some none := by
  unfold nextId
  cases h : n.vacant with
  | nil =>
    refine Names.nil fun id hid => ?_
    have hmem := (n.consistent.vacant.2 id).2 hid.2
    simp [h] at hmem
  | cons id rest => simpa [h] using n.consistent.vacant.erase id

/-- Stores a road between crossroads of the network and gives its number. -/
def insertRoad (n : RoadNetwork α) (road : Road α)
    (h : road.start < n.crossroads.size ∧ road.finish < n.crossroads.size) :
    RoadId × RoadNetwork α :=
  (n.nextId, {
    crossroads := attach n.crossroads n.nextId road
    slots := put n.slots n.nextId road
    vacant := n.vacant.tail
    consistent := n.consistent.addRoad n.nextId_le n.slot_nextId n.names_tail_vacant h })

theorem lt_size_of_position? {n : RoadNetwork α} {id : CrossroadId} {p : Vec2 α}
    (h : n.position? id = some p) : id < n.crossroads.size := by
  obtain ⟨k, hk, -⟩ := Option.map_eq_some_iff.1 h
  exact (Array.getElem?_eq_some_iff.1 hk).1

/-- Adds a road between two crossroads of the network and gives its number. -/
def addRoad [Scalar α] (n : RoadNetwork α) (start finish : CrossroadId) (highway : Bool) :
    Except Fault (RoadId × RoadNetwork α) :=
  match ha : n.position? start, hb : n.position? finish with
  | some a, some b =>
    .ok (n.insertRoad ⟨start, finish, highway, (a + b).scale 0.5⟩
      ⟨lt_size_of_position? ha, lt_size_of_position? hb⟩)
  | _, _ => .error .unknownCrossroad

theorem slot_of_road? {n : RoadNetwork α} {id : RoadId} {road : Road α}
    (h : n.road? id = some road) : n.slots[id]? = some (some road) :=
  Option.join_eq_some_iff.1 h

/-- Removes the road with a given number; nothing when there is none. -/
def removeRoad? (n : RoadNetwork α) (id : RoadId) : Option (Road α × RoadNetwork α) :=
  match h : n.road? id with
  | some road => some (road, {
      crossroads := detach n.crossroads id road
      slots := n.slots.setIfInBounds id none
      vacant := id :: n.vacant
      consistent := n.consistent.removeRoad (slot_of_road? h) })
  | none => none

/-! ## Drawing -/

/-- Highways are drawn in black and byways in grey. -/
def colour [Scalar α] (highway : Bool) : α × α × α × α :=
  if highway then (0, 0, 0, 1) else (0.5, 0.5, 0.5, 1)

/-- Every road as a line, of a thickness that depends on its class. -/
def strokes [Scalar α] (n : RoadNetwork α) (highwayThickness bywayThickness : α) :
    List (Stroke α) :=
  n.roads.filterMap fun (id, road) => do
    let ends ← n.segment? id
    return ⟨ends.start, ends.finish, colour road.highway,
      if road.highway then highwayThickness else bywayThickness, road.highway⟩

end RoadNetwork

end Cityscape

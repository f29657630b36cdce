import Cityscape.Fifo
import Cityscape.Growth.Joining
import Cityscape.Random.Stream

/-!
# Road growth

A road network grows from a city centre in rounds. Every task that is waiting when a round begins is
handled in it once, in order. A proposed road is built or dropped; a road that was built goes on
from its end in the next round and sends out a branch to either side of its start; a branch waits
for its delay before it proposes a road.

## Main definitions

* `Task` — what is waiting to be done.
* `Growth` — the state of a growing network.
* `Growth.handle`, `Growth.step` — what one task does, and the oldest task of the queue.
* `Growth.round`, `Growth.run` — one round, all rounds.
* `Growth.plant`, `Growth.generate` — the beginning of growth, and all of it.
-/

namespace Cityscape

/-- What is waiting to be done. -/
inductive Task (α : Type)
  /-- Build the planned road from a crossroad. -/
  | propose (plan : RoadPlan α) (start : CrossroadId)
  /-- Go on from the road that was built between two crossroads. -/
  | extend (plan : RoadPlan α) (start finish : CrossroadId) (merged : Bool)
  /-- Propose a road once the delay is over. -/
  | branch (delay : Int) (plan : RoadPlan α) (start : CrossroadId)

/-- Counts of what happened during growth. -/
structure GrowthStats where
  iterations : Nat
  built : Nat
  /-- Those of them that joined the network. -/
  merged : Nat
  /-- The proposed roads that were not built. -/
  failed : Nat
  deriving DecidableEq, Repr

def GrowthStats.zero : GrowthStats := ⟨0, 0, 0, 0⟩

/-- The state of a growing network. -/
structure Growth (α : Type) where
  land : Land α
  settings : GrowthSettings α
  map : RoadMap α
  queue : Fifo (Task α)
  stream : RandomStream
  stats : GrowthStats

namespace Growth

variable {α : Type} [Scalar α]

/-- Growth that has not begun, with an index over `bounds`. -/
def start (land : Land α) (bounds : Rect α) (settings : GrowthSettings α) : Growth α where
  land := land
  settings := settings
  map := .empty settings.capacity bounds
  queue := .empty
  stream := .ofSeed settings.seed
  stats := .zero

def push (g : Growth α) (task : Task α) : Growth α := { g with queue := g.queue.push task }

def addCrossroad (g : Growth α) (position : Vec2 α) : CrossroadId × Growth α :=
  let (id, map) := g.map.addCrossroad position
  (id, { g with map })

def addRoad (g : Growth α) (start finish : CrossroadId) (highway : Bool) :
    Except Fault (RoadId × Growth α) := do
  let (id, map) ← g.map.addRoad start finish highway
  return (id, { g with map })

variable [Trigonometry α]

/-- Fits a proposed road into the map and builds it, or leaves the map as it is. -/
def build (g : Growth α) (plan : RoadPlan α) (start : CrossroadId) :
    Except Fault (Outcome α × Growth α) := do
  let (outcome, map) ← g.map.build g.land g.settings plan start
  return (outcome, { g with map })

/-- Sends out a branch at an angle to a road that was built. The chance decides its class. -/
def branchOff (g : Growth α) (plan : RoadPlan α) (start : CrossroadId) (chance angle : α) :
    Growth α :=
  let (u, stream) : α × RandomStream := g.stream.unit
  let highway := decide (u < chance)
  push { g with stream }
    (.branch (if highway then 0 else g.settings.delay)
      ⟨plan.length, plan.direction.rotate angle, highway⟩ start)

/-- Goes on from the end of a road that was built, and branches off to both sides of its start. -/
def extend (g : Growth α) (plan : RoadPlan α) (start finish : CrossroadId) :
    Except Fault (Growth α) := do
  match g.map.network.position? start, g.map.network.position? finish with
  | some origin, some destination =>
    let forward ← (g.settings.rule.steering).turn g.land.densities plan destination
    let chance := g.settings.highwayChance * (← g.land.densityAt origin)
    let g := g.push (.propose forward finish)
    return (g.branchOff plan start chance 90.0).branchOff plan start chance (-90.0)
  | _, _ => return g

/-- Builds a proposed road and counts what became of it. -/
def resolve (g : Growth α) (plan : RoadPlan α) (start : CrossroadId) : Except Fault (Growth α) := do
  let (outcome, g) ← g.build plan start
  match outcome.verdict, outcome.finish with
  | .succeeded, some finish =>
    return push { g with stats.built := g.stats.built + 1 }
      (.extend plan start finish false)
  | .merged, some finish =>
    return push { g with stats.built := g.stats.built + 1, stats.merged := g.stats.merged + 1 }
      (.extend plan start finish true)
  | _, _ => return { g with stats.failed := g.stats.failed + 1 }

def handle (g : Growth α) : Task α → Except Fault (Growth α)
  | .propose plan start => g.resolve plan start
  | .extend plan start finish merged =>
    if merged && !g.settings.continueAfterMerge then .ok g else g.extend plan start finish
  | .branch delay plan start =>
    if delay < 0 then .ok g
    else if 0 < delay then .ok (g.push (.branch (delay - 1) plan start))
    else .ok (g.push (.propose plan start))

/-- Takes the oldest task from the queue and handles it. -/
def step (g : Growth α) : Except Fault (Growth α) :=
  match g.queue.pop? with
  | some (task, queue) => { g with queue }.handle task
  | none => .ok g

/-- Handles the first `count` tasks of the queue. -/
def handleFirst : Nat → Growth α → Except Fault (Growth α)
  | 0, g => .ok g
  | count + 1, g => do handleFirst count (← g.step)

/-- Handles the tasks that are waiting now. -/
def round (g : Growth α) : Except Fault (Growth α) := do
  let g ← handleFirst g.queue.size g
  return { g with stats.iterations := g.stats.iterations + 1 }

/-- At most `rounds` rounds, as long as tasks are waiting. -/
def run : Nat → Growth α → Except Fault (Growth α)
  | 0, g => .ok g
  | rounds + 1, g => if g.queue.isEmpty then .ok g else do run rounds (← g.round)

/-- The direction of the first road: the one asked for, or a random one. -/
def firstDirection (asked : Option (Vec2 α)) (s : RandomStream) :
    Except Fault (Vec2 α × RandomStream) :=
  match (asked.map Vec2.normalizeOrZero).filter (· != 0) with
  | some d => .ok (d, s)
  | none => do
    let (angle, s) ← s.below 0 (Trigonometry.turn : α)
    return (.ofAngle angle, s)

/-- The number of rounds that can be counted. -/
def countableRounds : Nat := 0x100000000

/-- The number of rounds that growth may take. -/
def roundLimit (g : Growth α) : Nat :=
  if g.settings.rounds = 0 then countableRounds else g.settings.rounds

/-- Growth at its beginning: the map holds nothing but the centre, where a highway in the direction
asked for is proposed. -/
def plant (g : Growth α) (centre : Vec2 α) (direction : Option (Vec2 α)) :
    Except Fault (Growth α) := do
  let g := { g with map := g.map.clear, queue := .empty, stats := .zero }
  let (id, g) := g.addCrossroad centre
  let (direction, stream) ← firstDirection direction g.stream
  return push { g with stream } (.propose ⟨g.settings.roadLength, direction, true⟩ id)

/-- Grows a network from a centre, beginning with a highway in the direction asked for. Roads that
are there already are removed first. -/
def generate (g : Growth α) (centre : Vec2 α) (direction : Option (Vec2 α)) :
    Except Fault (Growth α) := do
  let planted ← g.plant centre direction
  let grown ← run g.roundLimit planted
  if g.settings.rounds = 0 ∧ grown.stats.iterations = countableRounds then throw .overflow
  return { grown with queue := .empty }

end Growth

end Cityscape

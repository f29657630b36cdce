import Cityscape.Rect
import Cityscape.Terrain
import Cityscape.Terrain.Centre

/-!
# Cities

The land that a city is built on: its maps, its centre and how far it reaches.

## Main definitions

* `WorldSettings` — everything that the making of the land can be told, with its defaults.
* `CitySite` — the maps and the centre of a city.
* `CitySite.generate` — makes the land and looks for a centre.
* `CitySite.bounds` — the square that the city fills.
-/

namespace Cityscape

/-- What the making of the land can be told. -/
structure WorldSettings where
  width : Nat
  height : Nat
  /-- How far the city reaches from its centre, in cells. -/
  radius : Float32
  seed : UInt32
  /-- The number of hills across the map. -/
  noiseScale : Float
  octaves : Nat
  /-- The power that heights are raised to; a larger one makes lowlands flatter. -/
  heightExponent : Float32
  /-- The part of the range of heights that is flooded. -/
  waterLevel : Float32
  /-- How far around a centre the land is looked at, in cells. -/
  centreRadius : Nat
  /-- The greatest difference in height around a centre. -/
  centreSlope : Float32
  /-- The greatest part of water around a centre. -/
  centreWater : Float32
  /-- The part of the map, around its middle, in which a centre is looked for. -/
  centreArea : Float32
  centreAttempts : Nat
  /-- The frequency of the noise in the population. -/
  populationScale : Float

namespace WorldSettings

/-- The settings that hold unless something else is asked for. -/
def standard : WorldSettings where
  width := 256
  height := 256
  radius := 100
  seed := 42
  noiseScale := 3.0
  octaves := 5
  heightExponent := 1.2
  waterLevel := 0.3
  centreRadius := 8
  centreSlope := 0.2
  centreWater := 0.1
  centreArea := 0.5
  centreAttempts := 500
  populationScale := 0.05

def relief (w : WorldSettings) : Terrain.Relief where
  width := w.width
  height := w.height
  seed := w.seed
  scale := w.noiseScale
  octaves := w.octaves
  exponent := w.heightExponent
  water := w.waterLevel

def centreSearch (w : WorldSettings) : CentreSearch Float32 where
  radius := w.centreRadius
  slope := w.centreSlope
  waterRatio := w.centreWater
  area := w.centreArea
  attempts := w.centreAttempts

end WorldSettings

/-- The maps and the centre of a city. -/
structure CitySite (α : Type) where
  heights : Grid α
  densities : Grid α
  centre : Vec2 α
  radius : α

namespace CitySite

/-- The square that a city fills. -/
def bounds {α : Type} [Scalar α] (c : CitySite α) : Except Fault (Rect α) :=
  Rect.around c.centre c.radius

/-- Makes the land, looks for a centre and spreads the population around it; nothing when no centre
is found. -/
def generate (w : WorldSettings) : Except Fault (Option (CitySite Float32)) := do
  let heights ← Terrain.heights w.relief
  let (found, _) ← w.centreSearch.find heights (.ofSeed w.seed.toUInt64)
  match found with
  | none => return none
  | some centre =>
    let densities ← Terrain.population heights centre w.radius w.seed w.populationScale
    return some ⟨heights, densities, centre, w.radius⟩

end CitySite

end Cityscape

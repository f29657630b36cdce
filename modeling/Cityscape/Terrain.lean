import Cityscape.Grid
import Cityscape.Noise
import Cityscape.Random.Stream
import Cityscape.Scalar.Single
import Cityscape.Trigonometry

/-!
# Terrain and population

How the two maps of a city are made up: heights from noise of several octaves, of which the lowest
are flooded, and population densities that fall off from the city centre.

## Main definitions

* `Terrain.heights` — a height map.
* `Terrain.population` — a population map around a centre.
-/

namespace Cityscape.Terrain

/-! ## Heights -/

/-- A double-precision number from -500 up to 500. -/
def offset (s : RandomStream) : Float × RandomStream :=
  let (w, s) := s.longWord
  ((w >>> 12).toFloat / 4503599627370496.0 * 1000.0 + -500.0, s)

/-- The number between zero and one next to a number. -/
def unitClamp (x : Float) : Float := if x < 0.0 then 0.0 else if 1.0 < x then 1.0 else x

/-- The weighted sum of noise octaves, each of twice the frequency and half the weight of the one
before, and the sum of the weights. -/
def octaves (table : Noise.Table) (x y : Float) :
    Nat → Float → Float → Float → Except Fault (Float × Float)
  | 0, _, value, weights => .ok (value, weights)
  | n + 1, frequency, value, weights => do
    let amplitude := 1.0 / frequency
    let noise ← Noise.sample table (x * frequency) (y * frequency)
    octaves table x y n (frequency * 2.0)
      (value + amplitude * unitClamp ((noise + 1.0) * 0.5)) (weights + amplitude)

/-- What a height map is made from. -/
structure Relief where
  width : Nat
  height : Nat
  /-- The seed of the noise and of its place. -/
  seed : UInt32
  /-- The number of lattice points across the map in the first octave. -/
  scale : Float
  octaves : Nat
  /-- The power that every height between zero and one is raised to. -/
  exponent : Float32
  /-- The part of the range of heights, from its bottom, that is flooded. -/
  water : Float32

/-- Heights with everything below a part of their range turned into zero. -/
def flood (water : Float32) (g : Grid Float32) : Grid Float32 :=
  let low := g.cells.foldl Scalar.min Scalar.largest
  let high := g.cells.foldl Scalar.max (-Scalar.largest)
  let level := water * (high - low)
  g.map fun h => Scalar.max (h - low - level) 0

/-- The height map of a relief. -/
def heights (r : Relief) : Except Fault (Grid Float32) := do
  let table := Noise.table r.seed
  let (ox, s) := offset (.ofSeed r.seed.toUInt64)
  let (oy, _) := offset s
  let raw ← Grid.tabulate r.width r.height fun x y => do
    let nx := ox + x.toUInt64.toFloat / r.width.toUInt64.toFloat * r.scale
    let ny := oy + y.toUInt64.toFloat / r.height.toUInt64.toFloat * r.scale
    let (value, weights) ← octaves table nx ny r.octaves 1.0 0.0 0.0
    return Trigonometry.pow (value / weights).toFloat32 r.exponent
  return flood r.water raw

/-! ## Population -/

/-- The density at a cell with ground: it falls off linearly from the centre and varies with the
noise. -/
def density (table : Noise.Table) (centre : Vec2 Float32) (radius : Float32) (scale : Float)
    (x y : Nat) : Except Fault Float32 := do
  let distance := centre.distance ⟨Scalar.ofNat x, Scalar.ofNat y⟩
  let falloff := Scalar.clamp 0 1 (1 - distance / radius)
  if falloff == 0 then return 0
  let noise ← Noise.sample table (x.toUInt64.toFloat * scale) (y.toUInt64.toFloat * scale)
  let variation := 0.7 + 0.3 * ((noise.toFloat32 + 1) * 0.5)
  return Scalar.clamp 0 1 (falloff * variation)

/-- Densities around a centre: none on water and none beyond the radius. -/
def population (heights : Grid Float32) (centre : Vec2 Float32) (radius : Float32) (seed : UInt32)
    (scale : Float) : Except Fault (Grid Float32) := do
  let table := Noise.table (seed + 1)
  Grid.tabulate heights.width heights.height fun x y => do
    if (← heights.get x y) == 0 then return 0
    density table centre radius scale x y

end Cityscape.Terrain

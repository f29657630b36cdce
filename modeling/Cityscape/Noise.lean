import Cityscape.Fault

/-!
# Gradient noise

Smooth noise over the plane: a random gradient sits at every lattice point, and the noise between
lattice points blends the values of the four gradients around. Gradients are chosen by a shuffled
table of bytes.

## Main definitions

* `Noise.Shuffler` — the small generator that shuffles the table.
* `Noise.Table` — the shuffled table of a seed.
* `Noise.sample` — the noise at a point, between minus one and one.
-/

namespace Cityscape.Noise

/-! ## The table -/

/-- A shift-register generator of four words. -/
structure Shuffler where
  /-- The oldest word. -/
  x : UInt32
  /-- The word after it. -/
  y : UInt32
  /-- The word after that. -/
  z : UInt32
  /-- The newest word. -/
  w : UInt32

namespace Shuffler

def ofSeed (seed : UInt32) : Shuffler := ⟨1, seed, seed, seed⟩

def word (s : Shuffler) : UInt32 × Shuffler :=
  let t := s.x ^^^ (s.x <<< 11)
  let w := s.w ^^^ (s.w >>> 19) ^^^ (t ^^^ (t >>> 8))
  (w, ⟨s.y, s.z, s.w, w⟩)

/-- A count below `n`, every one equally likely; a draw that would favour some is drawn again. -/
def pick (n : Nat) : Nat → Shuffler → Nat × Shuffler
  | 0, s => (0, s)
  | fuel + 1, s =>
    let (v, s) := s.word
    let product := v.toNat * n
    let zone := (n <<< (32 - (n.log2 + 1))) - 1
    if product % 0x100000000 ≤ zone then (product / 0x100000000, s) else pick n fuel s

end Shuffler

/-- A table of bytes. -/
abbrev Table := Array UInt8

/-- Exchanges every entry, from the last to the second, with one at or before it. -/
def shuffle : Nat → Shuffler → Table → Table
  | 0, _, table => table
  | i + 1, s, table =>
    let (j, s) := s.pick (i + 2) 0x10000000000000000
    shuffle i s (table.swapIfInBounds (i + 1) j)

/-- The shuffled table of a seed. -/
def table (seed : UInt32) : Table :=
  shuffle 255 (.ofSeed seed) ((Array.range 256).map Nat.toUInt8)

/-! ## The noise -/

/-- The lattice coordinate below a coordinate; a coordinate that is not positive is moved one
further, also when it is whole. -/
def corner (c : Float) : Int64 :=
  let whole := c.toInt64
  if 0 < c then whole else whole - 1

/-- The byte that a lattice point has in the table. -/
def hash (table : Table) (x y : Int64) : UInt8 :=
  let first := table.getD (x &&& 255).toUInt64.toNat 0
  table.getD (first ^^^ (y &&& 255).toUInt64.toUInt8).toNat 0

/-- The value at `(a, b)` of the gradient that a byte chooses. -/
def gradient (byte : UInt8) (a b : Float) : Float :=
  match byte &&& 3 with
  | 0 => a + b
  | 1 => -a + b
  | 2 => a - b
  | _ => -a - b

/-- The smooth step from zero to one, level to second order at both ends. -/
def fade (d : Float) : Float :=
  let t := if d < 0.0 then 0.0 else if 1.0 < d then 1.0 else d
  t * t * t * (t * (t * 6.0 - 15.0) + 10.0)

def blend (a b t : Float) : Float := b * t + a * (1.0 - t)

/-- From this magnitude on a coordinate has no lattice points around it that can be counted. -/
def latticeLimit : Float := 9223372036854775808.0

/-- The noise of a table at a point between countable lattice points. -/
def sample (table : Table) (x y : Float) : Except Fault Float :=
  if latticeLimit ≤ x.abs ∨ latticeLimit ≤ y.abs then .error .overflow else
  let cx := corner x
  let cy := corner y
  let dx := x - cx.toFloat
  let dy := y - cy.toFloat
  let g00 := gradient (hash table cx cy) dx dy
  let g10 := gradient (hash table (cx + 1) cy) (dx - 1.0) dy
  let g01 := gradient (hash table cx (cy + 1)) dx (dy - 1.0)
  let g11 := gradient (hash table (cx + 1) (cy + 1)) (dx - 1.0) (dy - 1.0)
  let u := fade dx
  let v := fade dy
  let value := blend (blend g00 g01 v) (blend g10 g11 v) u * (2.0 / Float.sqrt 2.0)
  .ok (if value < -1.0 then -1.0 else if 1.0 < value then 1.0 else value)

end Cityscape.Noise

import Cityscape.Grid
import Cityscape.Random.Stream

/-!
# City centres

The search for a place to start a city: a land cell whose surroundings are level and hold little
water.

## Main definitions

* `CentreSearch` — what is asked of a centre.
* `CentreSearch.isSuitable` — whether a place is level and dry enough.
* `CentreSearch.find` — tries random places.
-/

namespace Cityscape

/-- What is asked of a city centre. -/
structure CentreSearch (α : Type) where
  /-- How far the surroundings extend to each side, in cells. -/
  radius : Nat
  /-- The greatest difference in height to the centre. -/
  slope : α
  /-- The greatest part of the surroundings that may be water. -/
  waterRatio : α
  /-- The part of the map, around its middle, that is searched. -/
  area : α
  attempts : Nat

namespace CentreSearch

variable {α : Type} [Scalar α]

/-- A count as a signed half word. -/
def signedHalfWord (n : Nat) : Int := (n : Int).bmod 0x100000000

def ofInt (n : Int) : α :=
  if n < 0 then -Scalar.ofNat n.natAbs else Scalar.ofNat n.natAbs

/-- The greatest signed half word, which is how many cells of water can be counted. -/
def mostCounted : Nat := 0x7fffffff

/-- Counts the water among `count` cells of a row of the surroundings, from the offset `dx` on;
nothing when a cell lies outside the map or is too high or low. -/
def scanRow (heights : Grid α) (slope : α) (centre : Vec2 α) (level : α) (dy : Int) :
    Nat → Int → Nat → Except Fault (Option Nat)
  | 0, _, water => .ok (some water)
  | count + 1, dx, water => do
    match ← heights.valueAt (centre + ⟨ofInt dx, ofInt dy⟩) with
    | none => return none
    | some h =>
      if h == 0 then
        if water = mostCounted then throw .overflow
        else scanRow heights slope centre level dy count (dx + 1) (water + 1)
      else if slope < Scalar.abs (h - level) then return none
      else scanRow heights slope centre level dy count (dx + 1) water

/-- Counts the water in `rows` rows of the surroundings, from the offset `dy` on. -/
def scanRows (heights : Grid α) (slope : α) (centre : Vec2 α) (level : α) (radius : Int)
    (columns : Nat) : Nat → Int → Nat → Except Fault (Option Nat)
  | 0, _, water => .ok (some water)
  | rows + 1, dy, water => do
    match ← scanRow heights slope centre level dy columns (-radius) water with
    | none => return none
    | some water => scanRows heights slope centre level radius columns rows (dy + 1) water

/-- Whether a place is land and its surroundings are level and dry enough. The radius is taken as a
signed half word; a negative one leaves no surroundings. -/
def isSuitable (q : CentreSearch α) (heights : Grid α) (mostWater : α) (centre : Vec2 α) :
    Except Fault Bool := do
  match ← heights.valueAt centre with
  | none => return false
  | some level =>
    if ¬ 0 < level then return false
    let radius := signedHalfWord q.radius
    if radius = -0x80000000 then throw .overflow
    let side := (2 * radius + 1).toNat
    match ← scanRows heights q.slope centre level radius side side (-radius) 0 with
    | none => return false
    | some water => return decide (Scalar.ofNat water ≤ mostWater)

/-- A whole coordinate drawn from the searched part of an extent. -/
def coordinate (q : CentreSearch α) (extent : α) (s : RandomStream) : α × RandomStream :=
  let (u, s) : α × RandomStream := s.unit
  (Scalar.round (extent * q.area * u + extent * (1 - q.area) / 2.0), s)

/-- Tries random places until one is suitable. -/
def tryPlaces (q : CentreSearch α) (heights : Grid α) (mostWater : α) :
    Nat → RandomStream → Except Fault (Option (Vec2 α) × RandomStream)
  | 0, s => .ok (none, s)
  | attempts + 1, s => do
    let (x, s) := q.coordinate (Scalar.ofNat heights.width - 1) s
    let (y, s) := q.coordinate (Scalar.ofNat heights.height - 1) s
    if ← q.isSuitable heights mostWater ⟨x, y⟩ then return (some ⟨x, y⟩, s)
    else tryPlaces q heights mostWater attempts s

/-- Searches for a city centre on a height map. -/
def find (q : CentreSearch α) (heights : Grid α) (s : RandomStream) :
    Except Fault (Option (Vec2 α) × RandomStream) :=
  if wordLimit < q.radius * 2 then .error .overflow
  else
    let side : α := Scalar.ofNat (q.radius * 2)
    q.tryPlaces heights (side * side * q.waterRatio) q.attempts s

end CentreSearch

end Cityscape

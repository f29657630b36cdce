import Cityscape.Fault
import Cityscape.Vector

/-!
# Grids

Row-major grids of numbers that cover the map. A map position falls into the cell at its rounded
coordinates. A height of zero stands for water and a density of zero for land nobody can live on.

## Main definitions

* `Grid` — a grid with one number for each cell.
* `Grid.ofData`, `Grid.ofRows`, `Grid.filled`, `Grid.tabulate` — grids from their cells.
* `Grid.cell`, `Grid.valueAt`, `Grid.isWater` — what stands at a map position.
* `Grid.get`, `Grid.set` — the number in a cell.
-/

namespace Cityscape

/-- Why cells do not make up a grid. -/
inductive GridError
  /-- The number of cells is not the product of width and height. -/
  | dimensionMismatch (width height actual : Nat)
  | raggedRows
  deriving DecidableEq, Repr

def GridError.message : GridError → String
  | .dimensionMismatch width height actual =>
    s!"field data has {actual} cells, expected {width}x{height}"
  | .raggedRows => "field rows have uneven lengths"

/-- A grid of numbers. -/
structure Grid (α : Type) where
  width : Nat
  height : Nat
  /-- The cells, row by row. -/
  cells : Vector α (width * height)

namespace Grid

/-! ## Construction -/

variable {α : Type}

/-- The grid of given cells. -/
def ofData (width height : Nat) (data : Array α) : Except (Stop GridError) (Grid α) :=
  if wordLimit < width * height then .error (.fault .overflow)
  else if h : data.size = width * height then .ok ⟨width, height, ⟨data, h⟩⟩
  else .error (.refused (.dimensionMismatch width height data.size))

theorem length_flatten_of_uniform (width : Nat) (rows : List (List α))
    (h : ∀ row ∈ rows, row.length = width) : rows.flatten.length = width * rows.length := by
  induction rows with
  | nil => simp
  | cons row rest ih =>
    have hrest := ih fun r hr => h r (List.mem_cons_of_mem _ hr)
    have hrow := h row List.mem_cons_self
    simp [hrest, hrow, Nat.mul_add, Nat.add_comm]

/-- The grid of given rows, which must be equally long; without rows it is empty. -/
def ofRows (rows : List (List α)) : Except GridError (Grid α) :=
  let width := (rows.head?.map List.length).getD 0
  if h : ∀ row ∈ rows, row.length = width then
    .ok ⟨width, rows.length, ⟨rows.flatten.toArray, by
      simpa using length_flatten_of_uniform width rows h⟩⟩
  else .error .raggedRows

/-- Whether as many cells can be held at once. -/
def fits (width height : Nat) : Bool := decide (width * height * 4 < 0x8000000000000000)

/-- The grid whose cells are computed from their coordinates. -/
def tabulate (width height : Nat) (f : Nat → Nat → Except Fault α) : Except Fault (Grid α) :=
  if fits width height then do
    let cells ← (Vector.range (width * height)).mapM fun k => f (k % width) (k / width)
    return ⟨width, height, cells⟩
  else .error .overflow

def filled (width height : Nat) (value : α) : Except Fault (Grid α) :=
  if fits width height then .ok ⟨width, height, .replicate _ value⟩ else .error .overflow

def map (f : α → α) (g : Grid α) : Grid α := { g with cells := g.cells.map f }

/-! ## Cells -/

/-- The number in column `x` of row `y`. -/
def get (g : Grid α) (x y : Nat) : Except Fault α :=
  match g.cells[y * g.width + x]? with
  | some v => .ok v
  | none => .error .outOfRange

/-- The grid with the number in column `x` of row `y` replaced. -/
def set (g : Grid α) (x y : Nat) (value : α) : Except Fault (Grid α) :=
  if h : y * g.width + x < g.width * g.height then
    .ok { g with cells := g.cells.set (y * g.width + x) value h }
  else .error .outOfRange

/-! ## Map positions -/

variable [Scalar α]

/-- The cell that a map position falls into, if it lies in the grid. -/
def cell (g : Grid α) (p : Vec2 α) : Option (Nat × Nat) :=
  let p := p.round
  if p.x < 0 ∨ p.y < 0 ∨ Scalar.ofNat g.width ≤ p.x ∨ Scalar.ofNat g.height ≤ p.y then none
  else some (Scalar.whole p.x, Scalar.whole p.y)

/-- Whether a map position lies in the grid. -/
def contains (g : Grid α) (p : Vec2 α) : Bool := (g.cell p).isSome

/-- The number at a map position, if it lies in the grid. -/
def valueAt (g : Grid α) (p : Vec2 α) : Except Fault (Option α) :=
  match g.cell p with
  | some (x, y) => (g.get x y).map some
  | none => .ok none

/-- Whether a map position is water; outside the grid everything is. -/
def isWater (g : Grid α) (p : Vec2 α) : Except Fault Bool := do
  match ← g.valueAt p with
  | some h => return h == 0
  | none => return true

end Grid

end Cityscape

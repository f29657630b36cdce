import Cityscape.Proofs.Grid
import Cityscape.Proofs.Scalar.Nearest

/-!
# Cells of grids

A grid is made of as many cells as its sides ask for, and of rows of one length, and of nothing
else. A place stands for the cell whose numbers are nearest to its coordinates, and it is outside if
there is no such cell, or if single precision does not tell the number of that cell from the length
of the side. So a place whose coordinates are numbers can be looked up on every grid, also on one
without cells; a coordinate that is not a number is taken for the first column or row, which only a
grid with a cell has.

## Main definitions

* `Grid.IsPacked` — the sides of a grid are machine words.
* `Grid.Falls` — a place falls into a cell.

## Main statements

* `Grid.ofData_eq`, `Grid.exists_ofRows`, `Grid.ofRows_eq_error` — what grids are made of.
* `Grid.cell_eq_some_iff` — the cell of a place.
* `Grid.made_and_read` — grids are made of what fits, and read where their cells are.
-/

namespace Cityscape

/-- The coordinates of the place are numbers. -/
def Vec2.IsNumber (p : Vec2 Float32) : Prop := Scalar.IsNumber p.x ∧ Scalar.IsNumber p.y

instance (p : Vec2 Float32) : Decidable p.IsNumber :=
  inferInstanceAs (Decidable ((p.x == p.x) = true ∧ (p.y == p.y) = true))

namespace Grid

open Single

/-! ## Making grids -/

section

variable {α : Type}

/-- A grid is made of data if there are as many cells as its sides ask for; otherwise the answer
says how many there are. -/
theorem ofData_eq {width height : ℕ} (hfit : width * height ≤ wordLimit) (data : Array α) :
    ofData width height data =
      if h : data.size = width * height then .ok ⟨width, height, ⟨data, h⟩⟩
      else .error (.refused (.dimensionMismatch width height data.size)) :=
  if_neg (not_lt.2 hfit)

/-- Rows of one length make a grid. -/
theorem exists_ofRows {rows : List (List α)} {width : ℕ}
    (h : ∀ row ∈ rows, row.length = width) :
    ∃ g, ofRows rows = .ok g ∧ g.height = rows.length ∧ (∀ row ∈ rows, row.length = g.width) ∧
      g.cells.toList = rows.flatten := by
  have hfirst : ∀ row ∈ rows, row.length = (rows.head?.map List.length).getD 0 := by
    cases rows with
    | nil => exact fun row hrow => absurd hrow List.not_mem_nil
    | cons first rest =>
      intro row hrow
      rw [h row hrow]
      exact (h first List.mem_cons_self).symm
  unfold ofRows
  dsimp only
  rw [dif_pos hfirst]
  exact ⟨_, rfl, rfl, hfirst, rfl⟩

/-- Rows of different lengths do not make a grid. -/
theorem ofRows_eq_error {rows : List (List α)}
    (h : ¬ ∃ width, ∀ row ∈ rows, row.length = width) : ofRows rows = .error .raggedRows :=
  dif_neg fun hfirst => h ⟨_, hfirst⟩

end

/-! ## Cells -/

variable {g : Grid Float32} {p : Vec2 Float32} {x y : ℕ}

/-- The sides of the grid are machine words. -/
def IsPacked (g : Grid Float32) : Prop := g.width ≤ wordLimit ∧ g.height ≤ wordLimit

instance (g : Grid Float32) : Decidable g.IsPacked := inferInstanceAs (Decidable (_ ∧ _))

/-- The cell of that column and row is nearest to the place, and single precision tells it from what
lies beyond the grid. -/
def Falls (g : Grid Float32) (p : Vec2 Float32) (x y : ℕ) : Prop :=
  (NearestTo p.x x ∧ Below x g.width) ∧ NearestTo p.y y ∧ Below y g.height

theorem cell_eq_some (g : Grid Float32) (p : Vec2 Float32) (x y : ℕ) :
    g.cell p = some (x, y) ↔
      ((¬ Single.round p.x < 0 ∧ ¬ (Scalar.ofNat g.width : Float32) ≤ Single.round p.x) ∧
        Scalar.whole (Single.round p.x) = x) ∧
      (¬ Single.round p.y < 0 ∧ ¬ (Scalar.ofNat g.height : Float32) ≤ Single.round p.y) ∧
        Scalar.whole (Single.round p.y) = y := by
  change (if Single.round p.x < 0 ∨ Single.round p.y < 0 ∨ Scalar.ofNat g.width ≤ Single.round p.x ∨
    Scalar.ofNat g.height ≤ Single.round p.y then none else
      some (Scalar.whole (Single.round p.x), Scalar.whole (Single.round p.y))) = some (x, y) ↔ _
  grind

/-- A place falls into the cell that is nearest to it. -/
theorem cell_eq_some_iff (hg : g.IsPacked) (hp : p.IsNumber) :
    g.cell p = some (x, y) ↔ g.Falls p x y := by
  rw [cell_eq_some, stands_iff hp.1 hg.1, stands_iff hp.2 hg.2]
  rfl

/-- On a grid with no more than 2²⁴ columns and rows every cell is told from what lies beyond. -/
theorem cell_eq_some_iff_of_le (hwidth : g.width ≤ 16777216) (hheight : g.height ≤ 16777216)
    (hp : p.IsNumber) :
    g.cell p = some (x, y) ↔
      (NearestTo p.x x ∧ x < g.width) ∧ NearestTo p.y y ∧ y < g.height := by
  have hpacked : g.IsPacked := by
    unfold IsPacked wordLimit
    omega
  rw [cell_eq_some_iff hpacked hp]
  exact and_congr (and_congr_right fun _ => ⟨Below.lt, below_of_lt hwidth⟩)
    (and_congr_right fun _ => ⟨Below.lt, below_of_lt hheight⟩)

/-- What a place inside the grid is looked up in is one of its cells. -/
theorem lt_of_cell (hg : g.IsPacked) (hp : p.IsNumber ∨ g.HasCell) (h : g.cell p = some (x, y)) :
    x < g.width ∧ y < g.height := by
  obtain hp | hcell := hp
  · obtain ⟨⟨-, hx⟩, -, hy⟩ := (cell_eq_some_iff hg hp).1 h
    exact ⟨hx.lt, hy.lt⟩
  · exact cell_lt hcell h

/-- A place whose coordinates are numbers has a number of the grid, or lies outside; so has every
place on a grid with a cell. -/
theorem exists_valueAt_eq (hg : g.IsPacked) (hp : p.IsNumber ∨ g.HasCell) :
    ∃ v, g.valueAt p = .ok v ∧ v.isSome = g.contains p := by
  unfold valueAt contains
  cases hcell : g.cell p with
  | none => exact ⟨none, rfl, rfl⟩
  | some c =>
    obtain ⟨hx, hy⟩ := lt_of_cell hg hp hcell
    obtain ⟨v, hv⟩ := exists_get hx hy
    refine ⟨some v, ?_, rfl⟩
    dsimp only
    rw [hv]
    rfl

/-- Grids are made of data that has as many cells as the sides ask for, and of rows of one length,
and are refused otherwise. A place whose coordinates are numbers falls into the cell that is nearest
to it, up to the precision in which the sides are told; it can be looked up, and on a grid with a
cell any place can. -/
theorem made_and_read {width height : ℕ} (hfit : width * height ≤ wordLimit)
    (data : Array Float32) (rows : List (List Float32)) (hg : g.IsPacked) (p : Vec2 Float32) :
    (ofData width height data =
      if h : data.size = width * height then .ok ⟨width, height, ⟨data, h⟩⟩
      else .error (.refused (.dimensionMismatch width height data.size))) ∧
    ((∃ width, ∀ row ∈ rows, row.length = width) →
      ∃ g, ofRows rows = .ok g ∧ g.height = rows.length ∧ (∀ row ∈ rows, row.length = g.width) ∧
        g.cells.toList = rows.flatten) ∧
    ((¬ ∃ width, ∀ row ∈ rows, row.length = width) → ofRows rows = .error .raggedRows) ∧
    (p.IsNumber → ∀ x y, g.cell p = some (x, y) ↔ g.Falls p x y) ∧
    (p.IsNumber ∨ g.HasCell → ∃ v, g.valueAt p = .ok v ∧ v.isSome = g.contains p ∧
      g.isWater p = .ok (v.all (· == 0))) ∧
    ∀ x n : ℕ, (Below x n → x < n) ∧ (n ≤ 16777216 → x < n → Below x n) := by
  refine ⟨ofData_eq hfit data, fun ⟨width, h⟩ => exists_ofRows h, ofRows_eq_error,
    fun hp x y => cell_eq_some_iff hg hp, fun hp => ?_, fun x n => ⟨Below.lt, below_of_lt⟩⟩
  obtain ⟨v, hv, hsome⟩ := exists_valueAt_eq hg hp
  refine ⟨v, hv, hsome, ?_⟩
  rw [isWater, hv]
  cases v <;> rfl

/-- Two rows of three cells. -/
def twoRows : Grid Float32 := ⟨3, 2, #v[1, 2, 3, 4, 5, 6]⟩

/-- A place halfway between four cells falls into the one that is farthest from the corner where the
grid starts, and a place at infinity is outside. -/
theorem made_and_read_halfway :
    ofData 2 1 #[(1 : Float32)] = .error (.refused (.dimensionMismatch 2 1 1)) ∧
      (∃ g : Grid Float32, ofRows [[1, 2, 3], [4, 5, 6]] = .ok g ∧ g.height = 2) ∧
      twoRows.Falls ⟨1.5, 0.5⟩ 2 1 ∧ twoRows.isWater ⟨1.5, 0.5⟩ = .ok false ∧
      (∀ x y, ¬ twoRows.Falls ⟨Float32.ofBits 0x7f800000, 0⟩ x y) ∧
      twoRows.isWater ⟨Float32.ofBits 0x7f800000, 0⟩ = .ok true := by
  have hpacked : twoRows.IsPacked := by decide
  have hplace : Vec2.IsNumber ⟨1.5, 0.5⟩ := by decide +kernel
  have hfar : Vec2.IsNumber ⟨Float32.ofBits 0x7f800000, 0⟩ := by decide +kernel
  have hcell : twoRows.cell ⟨1.5, 0.5⟩ = some (2, 1) := by decide +kernel
  have houtside : twoRows.cell ⟨Float32.ofBits 0x7f800000, 0⟩ = none := by decide +kernel
  have hfit : 2 * 1 ≤ wordLimit := by decide
  obtain ⟨hdata, hrows, -, hfalls, hread, -⟩ :=
    made_and_read hfit #[1] [[1, 2, 3], [4, 5, 6]] hpacked ⟨1.5, 0.5⟩
  obtain ⟨-, -, -, hfallsFar, hreadFar, -⟩ :=
    made_and_read hfit #[1] [[1, 2, 3], [4, 5, 6]] hpacked ⟨Float32.ofBits 0x7f800000, 0⟩
  obtain ⟨v, hv, -, hwater⟩ := hread (.inl hplace)
  obtain ⟨w, hw, -, hwaterFar⟩ := hreadFar (.inl hfar)
  obtain ⟨g, hg, hheight, -⟩ := hrows ⟨3, by decide⟩
  refine ⟨hdata.trans (dif_neg (by decide)), ⟨g, hg, hheight⟩, (hfalls hplace 2 1).1 hcell, ?_,
    fun x y h => ?_, ?_⟩
  · rw [valueAt, hcell] at hv
    cases hv
    exact hwater
  · have := (hfallsFar hfar x y).2 h
    rw [houtside] at this
    cases this
  · rw [valueAt, houtside] at hw
    cases hw
    exact hwaterFar

/-- Too many cells end the run although no data has them; a coordinate that is not a number is taken
for the first column, also on a grid that has none; and the last column of a grid with one column
more than single precision can count is not found. -/
theorem not_made_and_read :
    let undefined : Vec2 Float32 := ⟨Float32.ofBits 0x7fc00000, Float32.ofBits 0x7fc00000⟩
    let wide : Grid Float32 := ⟨16777217, 1, .replicate _ 1⟩
    ofData 4294967296 4294967296 (#[] : Array Float32) = .error (.fault .overflow) ∧
      (∃ g : Grid Float32, ofRows [] = .ok g ∧ g.cell undefined = some (0, 0) ∧
        g.valueAt undefined = .error .outOfRange) ∧
      (∀ x, ¬ NearestTo undefined.x x) ∧
      NearestTo 16777216 16777216 ∧ wide.cell ⟨16777216, 0⟩ = none := by
  intro undefined wide
  have hcell (g : Grid Float32) (hg : ofRows [] = .ok g) : g.cell undefined = some (0, 0) := by
    cases hg
    decide +kernel
  refine ⟨rfl, ⟨_, rfl, hcell _ rfl, ?_⟩, ?_, ?_, by decide +kernel⟩
  · rw [valueAt, hcell _ rfl]
    rfl
  · exact fun x h => absurd h.1 (by decide +kernel)
  · obtain ⟨hfinite, hreal⟩ := toReal_sixteenMillion
    refine ⟨hfinite, ?_⟩
    rw [hreal, show (2 : ℝ) ^ 24 = (16777216 : ℕ) by norm_num, round_real_natCast]

end Grid

end Cityscape

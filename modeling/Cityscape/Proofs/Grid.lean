import Cityscape.Grid
import Cityscape.Proofs.Scalar.Defined

/-!
# Reading grids

A coordinate that is not below zero and not beyond the last cell stands for one of the cells,
however its number and the number of cells are rounded. A coordinate that is not a number stands for
the first cell. So a grid that has a cell can be read everywhere.

## Main statements

* `Grid.whole_lt` — the cell of a coordinate that is not beyond the last one.
* `Grid.exists_valueAt` — a grid with a cell has a number, or none, at every place.
* `Grid.fault_of_isWater` — reading a place fails only where a cell does not exist.
-/

namespace Cityscape

open Single

namespace Single

open Float.Model (UnpackedFloat)
open Float.Model.UnpackedFloat

/-- What is not a number is cut off to zero. -/
theorem toNat_toUInt64_notANumber {a : Float32} (h : parts a = .notANumber) :
    a.toUInt64.toNat = 0 := by
  have hword : a.toUInt64 = UInt64.ofNatClamp ((parts a).toInt 0 (UInt64.size - 1)).toNat := rfl
  rw [hword, h]
  rfl

/-- Numbers that are cut off become no larger. -/
theorem toNat_toUInt64_le {a : Float32} (ha : Finite a) (h0 : 0 ≤ toReal a) :
    (a.toUInt64.toNat : ℝ) ≤ toReal a := by
  by_cases hlt : toReal a < 2 ^ 64
  · rw [toNat_toUInt64 ha h0 hlt]
    exact Nat.floor_le h0
  · have hword : (a.toUInt64.toNat : ℝ) < 2 ^ 64 := by exact_mod_cast a.toUInt64.toNat_lt
    exact hword.le.trans (not_lt.1 hlt)

/-- A finite number that is not below a count is not below the number of that count. -/
theorem ofNat_le {n : ℕ} {a : Float32} (ha : Finite a) (h : (n : ℝ) ≤ toReal a) :
    Float32.ofNat n ≤ a := by
  have h0 : toReal 0 ≤ toReal a := by
    rw [toReal_zero]
    exact n.cast_nonneg.trans h
  have hzero : Within 0 a 0 := .of_toReal finite_zero ha finite_zero ⟨le_rfl, h0⟩
  have hself : Within 0 a a := .of_toReal finite_zero ha ha ⟨h0, le_rfl⟩
  refine (Within.of_rounds hzero hself finite_zero.rounds ha.rounds (rounds_ofNat n) ?_).2.2
  exact Set.mem_uIcc_of_le (by rw [toReal_zero]; exact n.cast_nonneg) h

end Single

namespace Grid

/-- A coordinate that is neither below zero nor beyond the last of some cells stands for one of
them. -/
theorem whole_lt {a : Float32} {count : ℕ} (hcount : 0 < count) (hlow : ¬ a < 0)
    (hhigh : ¬ (Scalar.ofNat count : Float32) ≤ a) : Scalar.whole a < count := by
  change a.toUInt64.toNat < count
  cases hp : parts a with
  | notANumber =>
    rw [toNat_toUInt64_notANumber hp]
    exact hcount
  | infinity s =>
    cases s with
    | negative => exact absurd (by rw [lt_iff, hp]; rfl) hlow
    | positive => exact absurd (le_infinity (rounds_ofNat count).isDefined hp) hhigh
  | zero | finite =>
    have ha : Single.Finite a := by rw [Single.Finite, hp]; rfl
    have h0 : 0 ≤ toReal a := by
      rw [lt_iff_toReal ha finite_zero, toReal_zero, not_lt] at hlow
      exact hlow
    have hlt : toReal a < count := not_le.1 fun hle => hhigh (ofNat_le ha hle)
    exact_mod_cast (toNat_toUInt64_le ha h0).trans_lt hlt

/-- A grid with a cell. -/
def HasCell {α : Type} (g : Grid α) : Prop := 0 < g.width ∧ 0 < g.height

instance {α : Type} (g : Grid α) : Decidable g.HasCell := inferInstanceAs (Decidable (_ ∧ _))

/-- There is a number in every column and row. -/
theorem exists_get {α : Type} {g : Grid α} {x y : ℕ} (hx : x < g.width) (hy : y < g.height) :
    ∃ v, g.get x y = .ok v := by
  have hindex : y * g.width + x < g.width * g.height := by
    calc y * g.width + x < y * g.width + g.width := by omega
      _ = (y + 1) * g.width := (Nat.succ_mul y g.width).symm
      _ ≤ g.height * g.width := Nat.mul_le_mul_right g.width hy
      _ = g.width * g.height := Nat.mul_comm _ _
  refine ⟨g.cells[y * g.width + x], ?_⟩
  rw [get, Vector.getElem?_eq_getElem hindex]

variable {g : Grid Float32}

/-- The cell that a place falls into is one of the grid. -/
theorem cell_lt (hg : g.HasCell) {p : Vec2 Float32} {x y : ℕ} (h : g.cell p = some (x, y)) :
    x < g.width ∧ y < g.height := by
  unfold cell at h
  dsimp only at h
  split at h
  · cases h
  next hinside =>
    cases h
    simp only [not_or] at hinside
    obtain ⟨hx, hy, hwidth, hheight⟩ := hinside
    exact ⟨whole_lt hg.1 hx hwidth, whole_lt hg.2 hy hheight⟩

/-- A grid with a cell has a number, or none, at every place. -/
theorem exists_valueAt (hg : g.HasCell) (p : Vec2 Float32) : ∃ v, g.valueAt p = .ok v := by
  unfold valueAt
  split
  next x y hcell =>
    obtain ⟨hx, hy⟩ := cell_lt hg hcell
    obtain ⟨v, hv⟩ := exists_get hx hy
    exact ⟨some v, by rw [hv]; rfl⟩
  · exact ⟨none, rfl⟩

theorem exists_isWater (hg : g.HasCell) (p : Vec2 Float32) : ∃ b, g.isWater p = .ok b := by
  obtain ⟨v, hv⟩ := exists_valueAt hg p
  rw [isWater, hv]
  cases v <;> exact ⟨_, rfl⟩

/-- Only a grid with a cell has a number at some place. -/
theorem hasCell_of_valueAt {p : Vec2 Float32} {v : Float32} (h : g.valueAt p = .ok (some v)) :
    g.HasCell := by
  unfold valueAt at h
  split at h
  next x y =>
    unfold get at h
    split at h
    next hcell =>
      obtain ⟨hlt, -⟩ := Vector.getElem?_eq_some_iff.1 hcell
      exact CanonicallyOrderedAdd.mul_pos.1 (Nat.zero_lt_of_lt hlt)
    · cases h
  · cases h

/-! ## Faults -/

section

variable {α : Type} [Scalar α] {g : Grid α} {p : Vec2 α} {fault : Fault}

/-- Reading a place fails only where a cell does not exist. -/
theorem fault_of_valueAt (h : g.valueAt p = .error fault) : fault = .outOfRange := by
  unfold valueAt at h
  split at h
  next x y =>
    unfold get at h
    split at h <;> cases h
    rfl
  · cases h

theorem fault_of_isWater (h : g.isWater p = .error fault) : fault = .outOfRange := by
  obtain h | ⟨v, -, h⟩ := bind_eq_error.1 h
  · exact fault_of_valueAt h
  · cases v <;> cases h

end

end Grid

end Cityscape

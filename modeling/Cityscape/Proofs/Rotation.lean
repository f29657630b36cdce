import Mathlib
import Cityscape.Rotation
import Cityscape.Proofs.Scalar.RealNumbers

/-!
# Rotations by three angles

In real numbers the rotation of three angles is what it is meant to be: a turn about `z`, then one
about `x`, then one about `y`. It leaves every vector as it is if all angles are whole turns, or if
all of them are half a turn more than that, and for no other angles.

## Main definitions

* `Vec3.turnX`, `Vec3.turnY`, `Vec3.turnZ` — turns about the axes.
* `Vec3.WholeTurns` — the angles at which nothing is turned.

## Main statements

* `Rotation.ofAngles_apply` — the order of the turns.
* `Rotation.ofAngles_apply_unit_iff_wholeTurns` — when nothing is turned.
-/

namespace Cityscape

open Trigonometry (radians radians_real)

namespace Vec3

theorem zero_real : (0 : Vec3 ℝ) = ⟨0, 0, 0⟩ := rfl

theorem add_real (v w : Vec3 ℝ) : v + w = ⟨v.x + w.x, v.y + w.y, v.z + w.z⟩ := rfl

theorem add_left_cancel_iff {u v w : Vec3 ℝ} : u + v = u + w ↔ v = w := by
  cases v
  cases w
  simp [add_real]

theorem scale_inj {v w : Vec3 ℝ} {a : ℝ} (ha : a ≠ 0) : v.scale a = w.scale a ↔ v = w := by
  cases v
  cases w
  simp [scale, ha]

/-! ## Turns about the axes -/

noncomputable def turnX (a : ℝ) (v : Vec3 ℝ) : Vec3 ℝ :=
  ⟨v.x, v.y * Real.cos a - v.z * Real.sin a, v.y * Real.sin a + v.z * Real.cos a⟩

noncomputable def turnY (a : ℝ) (v : Vec3 ℝ) : Vec3 ℝ :=
  ⟨v.x * Real.cos a + v.z * Real.sin a, v.y, v.z * Real.cos a - v.x * Real.sin a⟩

noncomputable def turnZ (a : ℝ) (v : Vec3 ℝ) : Vec3 ℝ :=
  ⟨v.x * Real.cos a - v.y * Real.sin a, v.x * Real.sin a + v.y * Real.cos a, v.z⟩

/-- Three angles in degrees are whole turns, or each of them is half a turn more than that. -/
def WholeTurns (degrees : Vec3 ℝ) : Prop :=
  (∀ axis, ∃ k : ℤ, degrees.get axis = (k * 360 : ℤ)) ∨
    ∀ axis, ∃ k : ℤ, degrees.get axis = (k * 360 + 180 : ℤ)

end Vec3

namespace Rotation

/-! ## The order of the turns -/

theorem cos_of_half (a : ℝ) : Real.cos a = Real.cos (a * 0.5) ^ 2 - Real.sin (a * 0.5) ^ 2 := by
  rw [← Real.cos_two_mul']
  norm_num
  ring_nf

theorem sin_of_half (a : ℝ) : Real.sin a = 2 * Real.sin (a * 0.5) * Real.cos (a * 0.5) := by
  rw [← Real.sin_two_mul]
  norm_num
  ring_nf

theorem apply_real (q : Rotation ℝ) (v : Vec3 ℝ) :
    q.apply v =
      ⟨v.x * (q.w * q.w - (q.x * q.x + q.y * q.y + q.z * q.z)) +
          q.x * ((v.x * q.x + v.y * q.y + v.z * q.z) * 2) + (q.y * v.z - v.y * q.z) * (q.w * 2),
        v.y * (q.w * q.w - (q.x * q.x + q.y * q.y + q.z * q.z)) +
          q.y * ((v.x * q.x + v.y * q.y + v.z * q.z) * 2) + (q.z * v.x - v.z * q.x) * (q.w * 2),
        v.z * (q.w * q.w - (q.x * q.x + q.y * q.y + q.z * q.z)) +
          q.z * ((v.x * q.x + v.y * q.y + v.z * q.z) * 2) +
            (q.x * v.y - v.x * q.y) * (q.w * 2)⟩ := by
  have htwo : (2.0 : ℝ) = 2 := by norm_num
  rw [← htwo]
  rfl

/-- A rotation turns about `z` first, then about `x`, then about `y`. -/
theorem ofAngles_apply (degrees v : Vec3 ℝ) :
    (ofAngles degrees).apply v =
      ((v.turnZ (radians degrees.z)).turnX (radians degrees.x)).turnY (radians degrees.y) := by
  let i := radians degrees.y * 0.5
  let j := radians degrees.x * 0.5
  let h := radians degrees.z * 0.5
  have hi : Real.sin i ^ 2 + Real.cos i ^ 2 = 1 := Real.sin_sq_add_cos_sq i
  have hj : Real.sin j ^ 2 + Real.cos j ^ 2 = 1 := Real.sin_sq_add_cos_sq j
  have hh : Real.sin h ^ 2 + Real.cos h ^ 2 = 1 := Real.sin_sq_add_cos_sq h
  have hq : ofAngles degrees =
      ⟨Real.cos j * (Real.sin i * Real.sin h) + Real.sin j * (Real.cos i * Real.cos h),
        Real.cos j * (Real.sin i * Real.cos h) - Real.sin j * (Real.cos i * Real.sin h),
        Real.cos j * (Real.cos i * Real.sin h) - Real.sin j * (Real.sin i * Real.cos h),
        Real.cos j * (Real.cos i * Real.cos h) + Real.sin j * (Real.sin i * Real.sin h)⟩ := rfl
  rw [apply_real, hq]
  simp only [Vec3.turnX, Vec3.turnY, Vec3.turnZ, Vec3.mk.injEq]
  rw [cos_of_half (radians degrees.x), sin_of_half (radians degrees.x),
    cos_of_half (radians degrees.y), sin_of_half (radians degrees.y),
    cos_of_half (radians degrees.z), sin_of_half (radians degrees.z)]
  -- The component along the axis of a turn is multiplied by the square of the length, which is one.
  refine ⟨?_, ?_, ?_⟩
  · linear_combination
      (v.x * (Real.cos h ^ 2 - Real.sin h ^ 2) - v.y * (2 * Real.sin h * Real.cos h)) *
          (Real.cos i ^ 2 - Real.sin i ^ 2) * hj +
        v.z * (Real.cos j ^ 2 - Real.sin j ^ 2) * (2 * Real.sin i * Real.cos i) * hh
  · linear_combination
      ((v.x * (2 * Real.sin h * Real.cos h) + v.y * (Real.cos h ^ 2 - Real.sin h ^ 2)) *
          (Real.cos j ^ 2 - Real.sin j ^ 2) -
        v.z * (Real.sin h ^ 2 + Real.cos h ^ 2) * (2 * Real.sin j * Real.cos j)) * hi -
        v.z * (2 * Real.sin j * Real.cos j) * hh
  · linear_combination
      v.z * (Real.cos j ^ 2 - Real.sin j ^ 2) * (Real.cos i ^ 2 - Real.sin i ^ 2) * hh -
        (v.x * (Real.cos h ^ 2 - Real.sin h ^ 2) - v.y * (2 * Real.sin h * Real.cos h)) *
          (2 * Real.sin i * Real.cos i) * hj

theorem ofAngles_apply_unit_x (degrees : Vec3 ℝ) :
    (ofAngles degrees).apply (.unit .x) =
      ⟨Real.cos (radians degrees.z) * Real.cos (radians degrees.y) +
          Real.sin (radians degrees.z) * Real.sin (radians degrees.x) *
            Real.sin (radians degrees.y),
        Real.sin (radians degrees.z) * Real.cos (radians degrees.x),
        Real.sin (radians degrees.z) * Real.sin (radians degrees.x) *
            Real.cos (radians degrees.y) -
          Real.cos (radians degrees.z) * Real.sin (radians degrees.y)⟩ := by
  have hunit : Vec3.unit .x = (⟨1, 0, 0⟩ : Vec3 ℝ) := rfl
  rw [ofAngles_apply, hunit]
  simp [Vec3.turnX, Vec3.turnY, Vec3.turnZ]

theorem ofAngles_apply_unit_z (degrees : Vec3 ℝ) :
    (ofAngles degrees).apply (.unit .z) =
      ⟨Real.cos (radians degrees.x) * Real.sin (radians degrees.y),
        -Real.sin (radians degrees.x),
        Real.cos (radians degrees.x) * Real.cos (radians degrees.y)⟩ := by
  have hunit : Vec3.unit .z = (⟨0, 0, 1⟩ : Vec3 ℝ) := rfl
  rw [ofAngles_apply, hunit]
  simp [Vec3.turnX, Vec3.turnY, Vec3.turnZ]

/-! ## Rotations that turn nothing -/

theorem cos_radians_eq_one_iff {a : ℝ} :
    Real.cos (radians a) = 1 ↔ ∃ k : ℤ, a = (k * 360 : ℤ) := by
  rw [Real.cos_eq_one_iff]
  refine exists_congr fun k => ?_
  rw [radians_real, ← mul_div_assoc, eq_div_iff (by norm_num)]
  push_cast
  constructor
  · intro h
    apply mul_right_cancel₀ Real.pi_ne_zero
    linear_combination -h
  · rintro rfl
    ring

theorem cos_radians_eq_neg_one_iff {a : ℝ} :
    Real.cos (radians a) = -1 ↔ ∃ k : ℤ, a = (k * 360 + 180 : ℤ) := by
  have hturned : Real.cos (radians a) = -Real.cos (radians (a - 180)) := by
    rw [Trigonometry.radians_sub, Real.cos_sub]
    simp
  rw [hturned, neg_inj, cos_radians_eq_one_iff]
  refine exists_congr fun k => ?_
  rw [sub_eq_iff_eq_add]
  push_cast
  rfl

theorem sin_eq_zero_of_cos {a : ℝ} (h : Real.cos a = 1 ∨ Real.cos a = -1) : Real.sin a = 0 := by
  have hunit := Real.sin_sq_add_cos_sq a
  obtain h | h := h <;> simpa [h] using hunit

theorem cos_of_sin_eq_zero {a : ℝ} (h : Real.sin a = 0) : Real.cos a = 1 ∨ Real.cos a = -1 := by
  have hunit := Real.sin_sq_add_cos_sq a
  rw [h] at hunit
  exact mul_self_eq_one_iff.1 (by linarith)

/-- If the axes stay where they are, the cosines are all one, or all its opposite. -/
theorem cos_of_apply_unit {degrees : Vec3 ℝ}
    (h : ∀ axis, (ofAngles degrees).apply (.unit axis) = .unit axis) :
    (∀ axis, Real.cos (radians (degrees.get axis)) = 1) ∨
      ∀ axis, Real.cos (radians (degrees.get axis)) = -1 := by
  have hx := h .x
  have hz := h .z
  rw [ofAngles_apply_unit_x] at hx
  rw [ofAngles_apply_unit_z] at hz
  obtain ⟨hxx, -, -⟩ := Vec3.mk.inj hx
  obtain ⟨-, hzy, hzz⟩ := Vec3.mk.inj hz
  have hsin : Real.sin (radians degrees.x) = 0 := neg_eq_zero.1 hzy
  have hxy : Real.cos (radians degrees.x) * Real.cos (radians degrees.y) = 1 := hzz
  have hzy : Real.cos (radians degrees.z) * Real.cos (radians degrees.y) = 1 := by
    simpa [hsin] using hxx
  obtain hcos | hcos := cos_of_sin_eq_zero hsin
  · have hy : Real.cos (radians degrees.y) = 1 := by simpa [hcos] using hxy
    have hz : Real.cos (radians degrees.z) = 1 := by simpa [hy] using hzy
    left
    rintro (_ | _ | _) <;> assumption
  · have hy : Real.cos (radians degrees.y) = -1 := by
      rw [hcos] at hxy
      linarith
    have hz : Real.cos (radians degrees.z) = -1 := by
      rw [hy] at hzy
      linarith
    right
    rintro (_ | _ | _) <;> assumption

theorem ofAngles_apply_of_cos {degrees : Vec3 ℝ} {c : ℝ} (hc : c = 1 ∨ c = -1)
    (h : ∀ axis, Real.cos (radians (degrees.get axis)) = c) (v : Vec3 ℝ) :
    (ofAngles degrees).apply v = v := by
  have hsin (axis : Axis) : Real.sin (radians (degrees.get axis)) = 0 :=
    sin_eq_zero_of_cos (hc.imp (h axis).trans (h axis).trans)
  have hsquare : c * c = 1 := mul_self_eq_one_iff.2 hc
  have hx := h .x
  have hy := h .y
  have hz := h .z
  have hx' := hsin .x
  have hy' := hsin .y
  have hz' := hsin .z
  simp only [Vec3.get] at hx hy hz hx' hy' hz'
  rw [ofAngles_apply]
  simp [Vec3.turnX, Vec3.turnY, Vec3.turnZ, hx, hy, hz, hx', hy', hz', mul_assoc, hsquare]

/-- Only whole turns, with half a turn more about each axis or about none, turn nothing. -/
theorem ofAngles_apply_unit_iff_wholeTurns {degrees : Vec3 ℝ} :
    (∀ axis, (ofAngles degrees).apply (.unit axis) = .unit axis) ↔ degrees.WholeTurns := by
  simp only [Vec3.WholeTurns, ← cos_radians_eq_one_iff, ← cos_radians_eq_neg_one_iff]
  refine ⟨cos_of_apply_unit, ?_⟩
  rintro (h | h) axis
  · exact ofAngles_apply_of_cos (.inl rfl) h _
  · exact ofAngles_apply_of_cos (.inr rfl) h _

/-! ## Linearity -/

theorem apply_scale (q : Rotation ℝ) (v : Vec3 ℝ) (a : ℝ) :
    q.apply (v.scale a) = (q.apply v).scale a := by
  rw [apply_real, apply_real]
  simp only [Vec3.scale, Vec3.mk.injEq]
  refine ⟨?_, ?_, ?_⟩ <;> ring

theorem apply_add (q : Rotation ℝ) (v w : Vec3 ℝ) : q.apply (v + w) = q.apply v + q.apply w := by
  rw [apply_real, apply_real, apply_real]
  simp only [Vec3.add_real, Vec3.mk.injEq]
  refine ⟨?_, ?_, ?_⟩ <;> ring

end Rotation

end Cityscape

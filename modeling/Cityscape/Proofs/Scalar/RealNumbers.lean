import Mathlib
import Cityscape.Trigonometry

/-!
# Real numbers

Rotations by right angles need the sine and the cosine of half of one, which no rational number is.
In real numbers these are exact, so what holds of turned boxes up to rounding can be stated without
an error. There is no next smaller and no largest real number; nothing that is stated in them asks
for one.

## Main definitions

* the instances `Scalar ℝ` and `Trigonometry ℝ`.

## Main statements

* `Trigonometry.sin_radians_ninety`, `Trigonometry.cos_radians_ninety` and their like for two and
  for three right angles — exact values.
-/

namespace Cityscape

noncomputable instance : Scalar ℝ where
  decidableLT := inferInstance
  decidableLE := inferInstance
  ofNat n := n
  abs a := |a|
  sqrt := Real.sqrt
  round a := if a < 0 then -round (-a) else round a
  ceil a := ⌈a⌉
  whole a := ⌊a⌋.toNat
  isFinite _ := true
  pred a := a
  largest := 0

noncomputable instance : Trigonometry ℝ where
  degree := Real.pi / 180
  turn := 2 • Real.pi
  sin := Real.sin
  cos := Real.cos
  tan := Real.tan
  atan2 y x := Complex.arg ⟨x, y⟩
  pow a b := a ^ b

namespace Trigonometry

theorem radians_real (a : ℝ) : radians a = a * (Real.pi / 180) := rfl

@[simp]
theorem radians_zero : radians (0 : ℝ) = 0 := zero_mul _

@[simp]
theorem radians_neg (a : ℝ) : radians (-a) = -radians a := neg_mul _ _

@[simp]
theorem sin_radians_ninety : Real.sin (radians 90) = 1 := by
  rw [radians_real, show 90 * (Real.pi / 180) = Real.pi / 2 by ring, Real.sin_pi_div_two]

@[simp]
theorem cos_radians_ninety : Real.cos (radians 90) = 0 := by
  rw [radians_real, show 90 * (Real.pi / 180) = Real.pi / 2 by ring, Real.cos_pi_div_two]

@[simp]
theorem sin_radians_half_turn : Real.sin (radians 180) = 0 := by
  rw [radians_real, mul_div_cancel₀ Real.pi (by norm_num), Real.sin_pi]

@[simp]
theorem cos_radians_half_turn : Real.cos (radians 180) = -1 := by
  rw [radians_real, mul_div_cancel₀ Real.pi (by norm_num), Real.cos_pi]

theorem radians_add (a b : ℝ) : radians (a + b) = radians a + radians b := add_mul _ _ _

theorem radians_sub (a b : ℝ) : radians (a - b) = radians a - radians b := sub_mul _ _ _

@[simp]
theorem sin_radians_three_quarters : Real.sin (radians 270) = -1 := by
  rw [show (270 : ℝ) = 90 + 180 by norm_num, radians_add, Real.sin_add]
  simp

@[simp]
theorem cos_radians_three_quarters : Real.cos (radians 270) = 0 := by
  rw [show (270 : ℝ) = 90 + 180 by norm_num, radians_add, Real.cos_add]
  simp

end Trigonometry

end Cityscape

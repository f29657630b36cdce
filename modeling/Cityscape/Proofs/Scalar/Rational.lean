import Mathlib
import Cityscape.Scalar

/-!
# Rational numbers

Rational numbers are computed with exactly, so what holds of a computation up to rounding can be
stated of it in rational numbers without an error. They have no next smaller and no largest number;
nothing that is stated in them asks for one.

## Main definitions

* the instance `Scalar ℚ`.

## Main statements

* `Scalar.sum_rat`, `Scalar.max_rat` — sums and greatest numbers are those of the library.
-/

namespace Cityscape

instance : Scalar ℚ where
  decidableLT := inferInstance
  decidableLE := inferInstance
  ofNat n := n
  abs a := |a|
  -- exact on squares
  sqrt := Rat.sqrt
  round a := if a < 0 then -⌊-a + 1 / 2⌋ else ⌊a + 1 / 2⌋
  ceil a := ⌈a⌉
  whole a := ⌊a⌋.toNat
  isFinite _ := true
  pred a := a
  largest := 0

@[simp]
theorem Scalar.sum_rat (xs : List ℚ) : Scalar.sum xs = xs.sum := by
  unfold Scalar.sum
  rw [neg_zero, List.sum_eq_foldl]

@[simp]
theorem Scalar.max_rat (a b : ℚ) : Scalar.max a b = max a b := by
  unfold Scalar.max
  split
  next hlt => exact (max_eq_right hlt.le).symm
  next hge =>
    rw [if_pos (beq_self_eq_true a)]
    exact (max_eq_left (not_lt.1 hge)).symm

end Cityscape

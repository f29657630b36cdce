import Cityscape.Proofs.Scalar.Packing

/-!
# Rounding to single precision

The parts of a finite number stand for a real number. A real number is rounded to a multiple of its
last place: the nearest one, and the even one of two that are equally near. The last place of a
number follows from its magnitude, and does not go below the place of the smallest numbers. Overflow
is no part of rounding; it is met when a number is stored.

## Main definitions

* `Single.value` — the real number that parts stand for.
* `Single.Describes` — a whole number, with what is known about the digits that were cut off.
* `Single.IsNearest`, `Single.nearestNat` — the nearest whole number, where a half goes to the even
  one or up.
* `Single.lastPlace` — the exponent of the last place of a real number.
* `Single.IsRounding` — a real number and what it is rounded to.

## Main statements

* `Single.IsRounding.le`, `Single.IsRounding.eq` — rounding keeps the order, and has one result.
* `Single.IsRounding.of_digits` — what has few enough digits is rounded to itself.
-/

namespace Cityscape.Single

open Float.Model (Format UnpackedFloat totalExponent)
open Float.Model.UnpackedFloat

/-! ## Values -/

/-- A magnitude with a sign. -/
def signed (s : Sign) (x : ℝ) : ℝ :=
  match s with
  | .negative => -x
  | .positive => x

/-- The real number that a finite result stands for. -/
noncomputable def value : UnpackedFloat → ℝ
  | .finite s m e _ => signed s (m * 2 ^ e)
  | _ => 0

/-- An accuracy tells where a real number lies between a whole number and the next one. -/
def Describes (x : ℝ) (m : ℕ) : Accuracy → Prop
  | .exact => x = m
  | .inexact .lt => m < x ∧ x < m + 1 / 2
  | .inexact .eq => x = m + 1 / 2
  | .inexact .gt => m + 1 / 2 < x ∧ x < m + 1

/-! ## The nearest whole number -/

/-- The whole number is the nearest one, and the even one of two that are equally near. -/
def IsNearest (x : ℝ) (n : ℤ) : Prop := |x - n| ≤ 1 / 2 ∧ (|x - n| = 1 / 2 → Even n)

/-- The natural number nearest to a real one, where a half goes up; zero for a negative one. -/
noncomputable def nearestNat (x : ℝ) : ℕ := ⌊x + 1 / 2⌋₊

namespace IsNearest

variable {x y : ℝ} {m n : ℤ}

theorem intCast (n : ℤ) : IsNearest n n := by simp [IsNearest]

theorem neg (h : IsNearest x n) : IsNearest (-x) (-n) := by
  have habs : |-x - (-n : ℤ)| = |x - n| := by
    rw [Int.cast_neg, neg_sub_neg, abs_sub_comm]
  unfold IsNearest
  rw [habs, even_neg]
  exact h

/-- Where the greater number had the smaller nearest one, both would lie halfway between two whole
numbers next to each other, both of which would be even. -/
theorem le (h : IsNearest x m) (h' : IsNearest y n) (hxy : x ≤ y) : m ≤ n := by
  by_contra hlt
  have hle : (n : ℝ) + 1 ≤ m := by exact_mod_cast not_le.1 hlt
  have hx := abs_le.1 h.1
  have hy := abs_le.1 h'.1
  have hm : (m : ℝ) = n + 1 := by linarith
  have heven : Even m := h.2 (by rw [abs_eq (by norm_num)]; right; linarith)
  have heven' : Even n := h'.2 (by rw [abs_eq (by norm_num)]; left; linarith)
  have hsucc : m = n + 1 := by exact_mod_cast hm
  rw [hsucc, Int.even_add_one] at heven
  exact heven heven'

theorem eq (h : IsNearest x m) (h' : IsNearest x n) : m = n :=
  le_antisymm (h.le h' le_rfl) (h'.le h le_rfl)

end IsNearest

/-! ## The nearest number -/

/-- The exponent of the last place of the numbers next to a real number. -/
noncomputable def lastPlace (x : ℝ) : ℤ := max (Int.log 2 |x| - 23) (-149)

/-- The second number is the first one rounded to its last place; exponents have no upper bound. -/
def IsRounding (x v : ℝ) : Prop :=
  ∃ n : ℤ, IsNearest (x / 2 ^ lastPlace x) n ∧ v = n * 2 ^ lastPlace x

theorem lastPlace_neg (x : ℝ) : lastPlace (-x) = lastPlace x := by
  rw [lastPlace, lastPlace, abs_neg]

theorem lastPlace_mono {x y : ℝ} (hx : 0 < x) (hxy : x ≤ y) : lastPlace x ≤ lastPlace y := by
  have hlog : Int.log 2 |x| ≤ Int.log 2 |y| := by
    rw [abs_of_pos hx, abs_of_pos (hx.trans_le hxy)]
    exact Int.log_mono_right hx hxy
  unfold lastPlace
  omega

theorem lt_two_pow_lastPlace {x : ℝ} (hx : 0 < x) : x < 2 ^ 24 * 2 ^ lastPlace x := by
  have hlog : x < (2 : ℝ) ^ (Int.log 2 x + 1) := by
    exact_mod_cast Int.lt_zpow_succ_log_self (b := 2) one_lt_two x
  refine hlog.trans_le ?_
  rw [← zpow_natCast, ← zpow_add₀ two_ne_zero]
  refine zpow_le_zpow_right₀ one_le_two ?_
  rw [lastPlace, abs_of_pos hx]
  omega

theorem two_pow_lastPlace_le {x : ℝ} (hx : 0 < x) (hlast : -149 < lastPlace x) :
    2 ^ 23 * 2 ^ lastPlace x ≤ x := by
  have hlog : (2 : ℝ) ^ Int.log 2 x ≤ x := by
    exact_mod_cast Int.zpow_log_le_self (b := 2) one_lt_two hx
  refine le_trans ?_ hlog
  rw [← zpow_natCast, ← zpow_add₀ two_ne_zero]
  refine zpow_le_zpow_right₀ one_le_two ?_
  rw [lastPlace, abs_of_pos hx] at hlast ⊢
  omega

namespace IsRounding

variable {x y v w : ℝ}

theorem neg (h : IsRounding x v) : IsRounding (-x) (-v) := by
  obtain ⟨n, hn, rfl⟩ := h
  refine ⟨-n, ?_, ?_⟩
  · rw [lastPlace_neg, neg_div]
    exact hn.neg
  · rw [lastPlace_neg, Int.cast_neg, neg_mul]

theorem nonneg (h : IsRounding x v) (hx : 0 ≤ x) : 0 ≤ v := by
  obtain ⟨n, hn, rfl⟩ := h
  have hn0 : 0 ≤ n := by
    have hzero : IsNearest 0 0 := by exact_mod_cast IsNearest.intCast 0
    exact hzero.le hn (by positivity)
  have : (0 : ℝ) ≤ n := by exact_mod_cast hn0
  positivity

theorem nonpos (h : IsRounding x v) (hx : x ≤ 0) : v ≤ 0 := by
  have hneg := h.neg.nonneg (neg_nonneg.2 hx)
  linarith

theorem le_of_pos (h : IsRounding x v) (h' : IsRounding y w) (hx : 0 < x) (hxy : x ≤ y) :
    v ≤ w := by
  obtain ⟨m, hm, rfl⟩ := h
  obtain ⟨n, hn, rfl⟩ := h'
  have hpos : (0 : ℝ) < 2 ^ lastPlace x := by positivity
  have hpos' : (0 : ℝ) < 2 ^ lastPlace y := by positivity
  obtain heq | hlt := (lastPlace_mono hx hxy).eq_or_lt
  · rw [← heq] at hn ⊢
    have hmn : (m : ℝ) ≤ n := by exact_mod_cast hm.le hn (by gcongr)
    gcongr
  · have hm' : (m : ℝ) ≤ 2 ^ 24 := by
      have hle : x / 2 ^ lastPlace x ≤ ((2 ^ 24 : ℤ) : ℝ) := by
        rw [div_le_iff₀ hpos]
        exact_mod_cast (lt_two_pow_lastPlace hx).le
      exact_mod_cast hm.le (.intCast _) hle
    have hn' : (2 : ℝ) ^ 23 ≤ n := by
      have hle : ((2 ^ 23 : ℤ) : ℝ) ≤ y / 2 ^ lastPlace y := by
        rw [le_div_iff₀ hpos']
        have hlast : -149 < lastPlace y := lt_of_le_of_lt (le_max_right _ _) hlt
        exact_mod_cast two_pow_lastPlace_le (hx.trans_le hxy) hlast
      exact_mod_cast (IsNearest.intCast _).le hn hle
    calc (m : ℝ) * 2 ^ lastPlace x ≤ 2 ^ 24 * 2 ^ lastPlace x := by gcongr
      _ = 2 ^ 23 * 2 ^ (lastPlace x + 1) := by rw [zpow_add₀ two_ne_zero]; ring
      _ ≤ 2 ^ 23 * 2 ^ lastPlace y := by gcongr; exacts [one_le_two, hlt]
      _ ≤ n * 2 ^ lastPlace y := by gcongr

/-- Rounding keeps the order. -/
theorem le (h : IsRounding x v) (h' : IsRounding y w) (hxy : x ≤ y) : v ≤ w := by
  rcases lt_or_ge 0 x with hx | hx
  · exact h.le_of_pos h' hx hxy
  rcases lt_or_ge y 0 with hy | hy
  · have hneg := h'.neg.le_of_pos h.neg (neg_pos.2 hy) (neg_le_neg hxy)
    linarith
  · exact (h.nonpos hx).trans (h'.nonneg hy)

theorem eq (h : IsRounding x v) (h' : IsRounding x w) : v = w :=
  le_antisymm (h.le h' le_rfl) (h'.le h le_rfl)

/-- A number of few digits is rounded to itself. -/
theorem of_digits {m : ℤ} {e : ℤ} (hm : |m| < 2 ^ 24) (he : -149 ≤ e) :
    IsRounding (m * 2 ^ e) (m * 2 ^ e) := by
  by_cases hm0 : m = 0
  · subst hm0
    refine ⟨0, ?_, by simp⟩
    simpa using IsNearest.intCast 0
  have hlast : lastPlace (m * 2 ^ e) ≤ e := by
    have hlog : Int.log 2 |(m : ℝ) * 2 ^ e| < e + 24 := by
      rw [← Int.lt_zpow_iff_log_lt (b := 2) one_lt_two (by positivity)]
      rw [abs_mul, abs_of_pos (by positivity : (0 : ℝ) < 2 ^ e), Nat.cast_ofNat, add_comm,
        zpow_add₀ two_ne_zero]
      gcongr
      exact_mod_cast hm
    unfold lastPlace
    omega
  obtain ⟨k, hk⟩ := Int.le.dest hlast
  have hexact : (m : ℝ) * 2 ^ e = (m * 2 ^ k : ℤ) * 2 ^ lastPlace (m * 2 ^ e) := by
    conv_lhs => rw [← hk, zpow_add₀ two_ne_zero, zpow_natCast]
    push_cast
    ring
  refine ⟨m * 2 ^ k, ?_, hexact⟩
  have hdiv : (m : ℝ) * 2 ^ e / 2 ^ lastPlace (m * 2 ^ e) = (m * 2 ^ k : ℤ) := by
    rw [div_eq_iff (by positivity)]
    exact hexact
  rw [hdiv]
  exact .intCast _

end IsRounding

end Cityscape.Single

import Cityscape.Proofs.Scalar.Order
import Cityscape.Proofs.Scalar.Rounding

/-!
# The values of results

An operation computes a mantissa, an exponent and what was cut off behind the mantissa; the result
is the rounding of the real number that these describe.

## Main definitions

* `Single.Canonical` — the parts of a finite result before storing, however large the exponent.
* `Single.Approximates` — parts that are the rounding of a real number.

## Main statements

* `Single.targetExponent_eq_lastPlace` — the place of rounding is that of the described number.
* `Single.approximates_roundWithAccuracy` — what is described is rounded.
-/

namespace Cityscape.Single

open Float.Model (Format UnpackedFloat totalExponent)
open Float.Model.UnpackedFloat

/-! ## Values of parts -/

theorem signed_mul (s t : Sign) (x y : ℝ) : signed (s * t) (x * y) = signed s x * signed t y := by
  cases s <;> cases t
  · exact (neg_mul_neg x y).symm
  · exact (neg_mul x y).symm
  · exact (mul_neg x y).symm
  · rfl

theorem signed_div (s t : Sign) (x y : ℝ) : signed (s / t) (x / y) = signed s x / signed t y := by
  cases s <;> cases t
  · exact (neg_div_neg_eq x y).symm
  · exact (neg_div y x).symm
  · exact (div_neg x).symm
  · rfl

theorem apply_cast (s : Sign) (n : ℕ) : ((s.apply n : ℤ) : ℝ) = signed s n := by
  cases s
  · exact Int.cast_neg _
  · rfl

/-- A finite result has the digits of a number, whose exponent has no upper bound. -/
def Canonical : UnpackedFloat → Prop
  | .finite _ m e _ => m < 2 ^ 24 ∧ -149 ≤ e ∧ (-149 < e → 2 ^ 23 ≤ m)
  | .zero _ => True
  | _ => False

/-! ## Accuracy -/

variable {x : ℝ} {m : ℕ} {e : ℤ} {accuracy : Accuracy}

theorem Describes.floor (h : Describes x m accuracy) : m ≤ x ∧ x < m + 1 := by
  cases accuracy with
  | exact => constructor <;> simp only [Describes] at h <;> linarith
  | inexact o => cases o <;> simp only [Describes] at h <;> constructor <;> linarith

/-- The mantissa is rounded to the nearest whole number. -/
theorem Describes.isNearest (h : Describes x m accuracy) :
    IsNearest x (accuracy.roundToNearestEven m : ℕ) := by
  cases accuracy with
  | exact =>
    simp only [Describes] at h
    rw [h, Accuracy.roundToNearestEven]
    exact_mod_cast IsNearest.intCast m
  | inexact o =>
    cases o with
    | lt =>
      obtain ⟨hlow, hhigh⟩ := h
      have habs : |x - (m : ℤ)| < 1 / 2 := by
        rw [Int.cast_natCast, abs_lt]
        constructor <;> linarith
      exact ⟨habs.le, fun heq => absurd heq habs.ne⟩
    | eq =>
      simp only [Describes] at h
      rw [h, Accuracy.roundToNearestEven]
      obtain hm | hm := Nat.mod_two_eq_zero_or_one m
      · rw [hm]
        refine ⟨?_, fun _ => ?_⟩
        · rw [Int.cast_natCast, abs_le]
          push_cast
          constructor <;> linarith
        · rw [Int.even_coe_nat, Nat.even_iff]
          omega
      · rw [hm]
        refine ⟨?_, fun _ => ?_⟩
        · rw [Int.cast_natCast, abs_le]
          push_cast
          constructor <;> linarith
        · rw [Int.even_coe_nat, Nat.even_iff]
          omega
    | gt =>
      obtain ⟨hlow, hhigh⟩ := h
      have habs : |x - ((m + 1 : ℕ) : ℤ)| < 1 / 2 := by
        rw [Int.cast_natCast, abs_lt]
        push_cast
        constructor <;> linarith
      exact ⟨habs.le, fun heq => absurd heq habs.ne⟩

theorem describes_ofMantissaAndAccuracy (h : Describes x m accuracy) :
    Describes x (ExtendedMantissa.ofMantissaAndAccuracy m accuracy).mantissa
      (ExtendedMantissa.ofMantissaAndAccuracy m accuracy).accuracy := by
  cases accuracy with
  | exact => exact h
  | inexact o => cases o <;> exact h

theorem describes_shiftRightOne {em : ExtendedMantissa} (h : Describes x em.mantissa em.accuracy) :
    Describes (x / 2) em.shiftRightOne.mantissa em.shiftRightOne.accuracy := by
  obtain ⟨m, r, s⟩ := em
  obtain ⟨q, rfl | rfl⟩ : ∃ q, m = 2 * q ∨ m = 2 * q + 1 := ⟨m / 2, by omega⟩
  · have hdiv : 2 * q / 2 = q := by omega
    have hmod : (2 * q % 2 != 0) = false := by simp
    rcases r <;> rcases s <;>
      simp only [ExtendedMantissa.shiftRightOne, ExtendedMantissa.accuracy, Describes, hdiv, hmod,
        Bool.or_false, Bool.or_true, Nat.cast_mul, Nat.cast_ofNat] at h ⊢ <;>
      grind
  · have hdiv : (2 * q + 1) / 2 = q := by omega
    have hmod : ((2 * q + 1) % 2 != 0) = true := by simp
    rcases r <;> rcases s <;>
      simp only [ExtendedMantissa.shiftRightOne, ExtendedMantissa.accuracy, Describes, hdiv, hmod,
        Bool.or_false, Bool.or_true, Nat.cast_mul, Nat.cast_ofNat, Nat.cast_add,
        Nat.cast_one] at h ⊢ <;>
      grind

theorem describes_shiftRight {em : ExtendedMantissa} (h : Describes x em.mantissa em.accuracy)
    (n : ℕ) : Describes (x / 2 ^ n) (em >>> n).mantissa (em >>> n).accuracy := by
  change Describes (x / 2 ^ n) (n.repeat ExtendedMantissa.shiftRightOne em).mantissa
    (n.repeat ExtendedMantissa.shiftRightOne em).accuracy
  induction n with
  | zero =>
    rw [pow_zero, div_one]
    exact h
  | succ n ih =>
    rw [pow_succ, ← div_div]
    exact describes_shiftRightOne ih

/-! ## Rounding -/

theorem targetExponent_eq (m : ℕ) (e : ℤ) :
    Format.binary32.targetExponent (totalExponent m e) = max (m.log2 + e - 23) (-149) := by
  simp only [Format.targetExponent, totalExponent, Format.mantissaBits, Format.minExponent]
  norm_num
  omega

theorem log_of_floor (hm : 0 < m) (hx : m ≤ x ∧ x < m + 1) (e : ℤ) :
    Int.log 2 (x * 2 ^ e) = m.log2 + e := by
  have hlow : (2 : ℝ) ^ m.log2 ≤ m := by exact_mod_cast Nat.log2_self_le hm.ne'
  have hhigh : (m : ℝ) + 1 ≤ 2 ^ (m.log2 + 1) := by exact_mod_cast Nat.lt_log2_self
  have hpos : 0 < x := lt_of_lt_of_le (by exact_mod_cast hm) hx.1
  have hle : (m.log2 : ℤ) + e ≤ Int.log 2 (x * 2 ^ e) := by
    rw [← Int.zpow_le_iff_le_log (b := 2) one_lt_two (by positivity), Nat.cast_ofNat,
      zpow_add₀ two_ne_zero, zpow_natCast]
    gcongr
    exact hlow.trans hx.1
  have hlt : Int.log 2 (x * 2 ^ e) < m.log2 + e + 1 := by
    rw [← Int.lt_zpow_iff_log_lt (b := 2) one_lt_two (by positivity), Nat.cast_ofNat,
      add_right_comm, zpow_add₀ two_ne_zero]
    gcongr
    exact_mod_cast hx.2.trans_le hhigh
  omega

/-- The exponent to which a mantissa is shifted is the last place of the number that it stands
for. -/
theorem targetExponent_eq_lastPlace (hx : m ≤ x ∧ x < m + 1) (hpos : 0 < x)
    (hfit : e ≤ Format.binary32.targetExponent (totalExponent m e)) :
    Format.binary32.targetExponent (totalExponent m e) = lastPlace (x * 2 ^ e) := by
  have habs : |x * 2 ^ e| = x * 2 ^ e := abs_of_pos (by positivity)
  rw [targetExponent_eq] at hfit ⊢
  rw [lastPlace, habs]
  obtain rfl | hm := m.eq_zero_or_pos
  · rw [Nat.log2_zero] at hfit ⊢
    have hlt : Int.log 2 (x * 2 ^ e) < e := by
      rw [← Int.lt_zpow_iff_log_lt (b := 2) one_lt_two (by positivity), Nat.cast_ofNat]
      have hx1 : x < 1 := by simpa using hx.2
      exact mul_lt_of_lt_one_left (by positivity) hx1
    omega
  · rw [log_of_floor hm hx]

theorem shiftToTargetExponent_of_lt {m : ℕ} (hm : m < 2 ^ 24) (he : -149 ≤ e) :
    shiftToTargetExponent .binary32 m e .exact = (⟨m, false, false⟩, e) := by
  have hlog : m.log2 ≤ 23 := by
    obtain rfl | hpos := m.eq_zero_or_pos
    · simp
    · exact Nat.le_of_lt_succ ((Nat.log2_lt hpos.ne').2 hm)
  have hzero : (Format.binary32.targetExponent (totalExponent m e) - e).toNat = 0 := by
    rw [targetExponent_eq]
    omega
  simp [shiftToTargetExponent, shiftToExponent, hzero, HShiftRight.hShiftRight, Nat.repeat,
    ExtendedMantissa.ofMantissaAndAccuracy]

theorem shiftToTargetExponent_carry (he : -149 ≤ e) :
    shiftToTargetExponent .binary32 (2 ^ 24) e .exact = (⟨2 ^ 23, false, false⟩, e + 1) := by
  have hone : (Format.binary32.targetExponent (totalExponent (2 ^ 24) e) - e).toNat = 1 := by
    rw [targetExponent_eq, Nat.log2_two_pow]
    omega
  simp only [shiftToTargetExponent, shiftToExponent, hone]
  rfl

/-- A result stands for a real number after rounding. -/
def Approximates (x : ℝ) (f : UnpackedFloat) : Prop := Canonical f ∧ IsRounding x (value f)

theorem IsRounding.signed {v : ℝ} (h : IsRounding x v) (s : Sign) :
    IsRounding (signed s x) (signed s v) := by
  cases s
  · exact h.neg
  · exact h

/-- A rounded mantissa overflows by one bit at most, and the shift that removes it is exact. -/
theorem shiftToTargetExponent_rounded {n : ℕ} (hn : n ≤ 2 ^ 24) (he : -149 ≤ e)
    (hnormal : -149 < e → 2 ^ 23 ≤ n) :
    ∃ m d, shiftToTargetExponent .binary32 n e .exact = (⟨m, false, false⟩, d) ∧
      m < 2 ^ 24 ∧ -149 ≤ d ∧ (-149 < d → 2 ^ 23 ≤ m) ∧ (m : ℝ) * 2 ^ d = n * 2 ^ e := by
  obtain hlt | rfl := hn.lt_or_eq
  · exact ⟨n, e, shiftToTargetExponent_of_lt hlt he, hlt, he, hnormal, rfl⟩
  · refine ⟨2 ^ 23, e + 1, shiftToTargetExponent_carry he, by norm_num, by omega,
      fun _ => le_rfl, ?_⟩
    rw [zpow_add₀ two_ne_zero]
    push_cast
    ring

/-- The first shift and the rounding of what is left of the mantissa. -/
theorem exists_rounded (h : Describes x m accuracy)
    (hfit : e ≤ Format.binary32.targetExponent (totalExponent m e)) :
    ∃ em d, shiftToTargetExponent .binary32 m e accuracy = (em, d) ∧ -149 ≤ d ∧
      em.roundedMantissa ≤ 2 ^ 24 ∧
      (em.roundedMantissa ≠ 0 → -149 < d → 2 ^ 23 ≤ em.roundedMantissa) ∧
      IsRounding (x * 2 ^ e) (em.roundedMantissa * 2 ^ d) := by
  obtain ⟨k, hk⟩ := Int.le.dest hfit
  have hcount : (Format.binary32.targetExponent (totalExponent m e) - e).toNat = k := by omega
  set d := Format.binary32.targetExponent (totalExponent m e) with hd
  have hlast : -149 ≤ d := by
    rw [hd, targetExponent_eq]
    exact le_max_right _ _
  have hnearest :=
    (describes_shiftRight (describes_ofMantissaAndAccuracy h) k).isNearest
  refine ⟨ExtendedMantissa.ofMantissaAndAccuracy m accuracy >>> k, d, ?_, hlast, ?_⟩
  · simp only [shiftToTargetExponent, shiftToExponent, ← hd, hcount, hk]
  set n := (ExtendedMantissa.ofMantissaAndAccuracy m accuracy >>> k).roundedMantissa
  change IsNearest (x / 2 ^ k) (n : ℤ) at hnearest
  have hx0 : 0 ≤ x := le_trans (Nat.cast_nonneg m) h.floor.1
  obtain hx | hx := hx0.eq_or_lt
  · have hn : n = 0 := by
      rw [← hx, zero_div] at hnearest
      have hn : (n : ℤ) = 0 := hnearest.eq (by simpa using IsNearest.intCast 0)
      exact_mod_cast hn
    rw [hn, ← hx]
    refine ⟨by norm_num, fun h => absurd rfl h, ?_⟩
    simpa using IsRounding.of_digits (m := 0) (by norm_num) hlast
  · have hpos : 0 < x * 2 ^ e := by positivity
    have hplace : d = lastPlace (x * 2 ^ e) := targetExponent_eq_lastPlace h.floor hx hfit
    have hscale : x * 2 ^ e / 2 ^ d = x / 2 ^ k := by
      rw [← hk, zpow_add₀ two_ne_zero, zpow_natCast]
      field_simp
    rw [← hscale] at hnearest
    refine ⟨?_, fun _ hnormal => ?_, n, hplace ▸ hnearest, by rw [← hplace]; rfl⟩
    · have hle : x * 2 ^ e / 2 ^ d ≤ ((2 ^ 24 : ℤ) : ℝ) := by
        rw [div_le_iff₀ (by positivity), hplace]
        exact_mod_cast (lt_two_pow_lastPlace hpos).le
      exact_mod_cast hnearest.le (.intCast _) hle
    · have hle : ((2 ^ 23 : ℤ) : ℝ) ≤ x * 2 ^ e / 2 ^ d := by
        rw [le_div_iff₀ (by positivity), hplace]
        exact_mod_cast two_pow_lastPlace_le hpos (hplace ▸ hnormal)
      exact_mod_cast (IsNearest.intCast _).le hnearest hle

theorem approximates_roundWithAccuracy (s : Sign) (h : Describes x m accuracy)
    (hfit : e ≤ Format.binary32.targetExponent (totalExponent m e)) :
    Approximates (signed s (x * 2 ^ e)) (roundWithAccuracy .binary32 s m e accuracy) := by
  obtain ⟨em, d, hfirst, hlast, hle, hnormal, hround⟩ := exists_rounded h hfit
  simp only [roundWithAccuracy, hfirst]
  by_cases hzero : em.roundedMantissa = 0
  · simp only [hzero, shiftToTargetExponent_of_lt (Nat.two_pow_pos 24) hlast, dite_true]
    refine ⟨trivial, ?_⟩
    have hsigned := hround.signed s
    cases s <;> simpa [hzero, signed, value] using hsigned
  · obtain ⟨m', d', hsecond, hm', hd', hnormal', heq⟩ :=
      shiftToTargetExponent_rounded hle hlast (hnormal hzero)
    have hpos : m' ≠ 0 := by
      intro hm0
      rw [hm0, Nat.cast_zero, zero_mul, eq_comm] at heq
      have : (em.roundedMantissa : ℝ) = 0 := by
        simpa [zpow_ne_zero] using heq
      exact hzero (by exact_mod_cast this)
    simp only [hsecond, dif_neg hpos]
    refine ⟨⟨hm', hd', hnormal'⟩, ?_⟩
    rw [value, heq]
    exact hround.signed s

end Cityscape.Single

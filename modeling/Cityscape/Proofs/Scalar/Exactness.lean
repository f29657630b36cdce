import Cityscape.Proofs.Scalar.Value

/-!
# Operations round exact results

Each operation on finite numbers gives the rounding of its exact result.

## Main statements

* `Single.approximates_add`, `Single.approximates_sub`, `Single.approximates_mul`,
  `Single.approximates_div`, `Single.approximates_sqrt` — the operations.
* `Single.approximates_round` — a magnitude with an exponent is rounded.
-/

namespace Cityscape.Single

open Float.Model (Format UnpackedFloat totalExponent)
open Float.Model.UnpackedFloat

variable {x y : ℝ} {m n : ℕ} {e d : ℤ} {f g : UnpackedFloat}

theorem value_zero (s : Sign) : value (.zero s) = 0 := rfl

theorem value_finite (s : Sign) (m : ℕ) (e : ℤ) (hm : 0 < m) :
    value (.finite s m e hm) = signed s (m * 2 ^ e) := rfl

theorem isRounding_zero : IsRounding 0 0 := by
  simpa using IsRounding.of_digits (m := 0) (e := 0) (by norm_num) (by norm_num)

theorem approximates_zero (s : Sign) : Approximates 0 (.zero s) := ⟨trivial, isRounding_zero⟩

/-- A number is rounded to itself. -/
theorem Canonical.approximates (h : Canonical f) : Approximates (value f) f := by
  refine ⟨h, ?_⟩
  cases f with
  | notANumber | infinity => cases h
  | zero s => exact isRounding_zero
  | finite s m e hm =>
    obtain ⟨hlt, he, -⟩ := h
    have hself : IsRounding (m * 2 ^ e) (m * 2 ^ e) := by
      exact_mod_cast IsRounding.of_digits (m := m) (by rw [Nat.abs_cast]; exact_mod_cast hlt) he
    exact hself.signed s

theorem value_neg (f : UnpackedFloat) : value f.neg = -value f := by
  cases f with
  | finite s m e hm => cases s <;> simp [neg, value, signed]
  | _ => simp [neg, value]

theorem Canonical.neg (h : Canonical f) : Canonical f.neg := by
  cases f <;> exact h

/-! ## Sums -/

theorem le_targetExponent (h : -149 < e → 2 ^ 23 ≤ m) :
    e ≤ Format.binary32.targetExponent (totalExponent m e) := by
  rw [targetExponent_eq]
  by_cases he : -149 < e
  · have hm : 23 ≤ m.log2 := (Nat.le_log2 (by have := h he; omega)).2 (h he)
    omega
  · omega

theorem two_pow_le_shiftLeft {j k : ℕ} (hm : 0 < m) (h : j ≤ m.log2 + k) : 2 ^ j ≤ m <<< k := by
  rw [Nat.shiftLeft_eq]
  calc 2 ^ j ≤ 2 ^ (m.log2 + k) := Nat.pow_le_pow_right two_pos h
    _ = 2 ^ m.log2 * 2 ^ k := Nat.pow_add ..
    _ ≤ m * 2 ^ k := Nat.mul_le_mul_right _ (Nat.log2_self_le hm.ne')

theorem approximates_round (s : Sign) (hm : 0 < m) (e : ℤ) :
    Approximates (signed s (m * 2 ^ e)) (UnpackedFloat.round .binary32 s m e) := by
  set k := (e - Format.binary32.targetExponent (totalExponent m e)).toNat with hk
  have hfit : e - k ≤ Format.binary32.targetExponent (totalExponent (m <<< k) (e - k)) := by
    refine le_targetExponent fun hlt => two_pow_le_shiftLeft hm ?_
    rw [targetExponent_eq] at hk
    omega
  have hexact : Describes ((m <<< k : ℕ) : ℝ) (m <<< k) .exact := rfl
  have happrox := approximates_roundWithAccuracy s hexact hfit
  have hvalue : ((m <<< k : ℕ) : ℝ) * 2 ^ (e - k) = m * 2 ^ e := by
    rw [Nat.shiftLeft_eq, zpow_sub₀ two_ne_zero, zpow_natCast]
    push_cast
    field_simp
  rw [hvalue] at happrox
  exact happrox

theorem approximates_normalize (n : ℤ) (e : ℤ) (s : Sign) :
    Approximates (n * 2 ^ e) (UnpackedFloat.normalize .binary32 n e s) := by
  obtain hn | rfl | hn := Int.lt_trichotomy n 0
  · have hlt : compare n 0 = .lt := Int.compare_eq_lt.2 hn
    have happrox := approximates_round .negative (m := (-n).toNat) (by omega) e
    have hcast : (((-n).toNat : ℕ) : ℝ) = -n := by
      exact_mod_cast Int.toNat_of_nonneg (by omega : 0 ≤ -n)
    rw [hcast, signed, neg_mul, neg_neg] at happrox
    simpa only [UnpackedFloat.normalize, hlt] using happrox
  · rw [Int.cast_zero, zero_mul]
    exact approximates_zero s
  · have hgt : compare n 0 = .gt := Int.compare_eq_gt.2 hn
    have happrox := approximates_round .positive (m := n.toNat) (by omega) e
    have hcast : ((n.toNat : ℕ) : ℝ) = n := by
      exact_mod_cast Int.toNat_of_nonneg hn.le
    rw [hcast, signed] at happrox
    simpa only [UnpackedFloat.normalize, hgt] using happrox

/-- A mantissa that is shifted to a smaller exponent. -/
theorem value_decreaseExponent (s : Sign) (m : ℕ) (h : d ≤ e) :
    ((s.apply (decreaseExponent m e d).1 : ℤ) : ℝ) * 2 ^ d = signed s (m * 2 ^ e) := by
  obtain ⟨k, rfl⟩ := Int.le.dest h
  have hk : (d + k - d).toNat = k := by omega
  rw [apply_cast, decreaseExponent, hk, Nat.shiftLeft_eq, zpow_add₀ two_ne_zero, zpow_natCast]
  cases s <;> simp only [signed] <;> push_cast <;> ring

theorem approximates_add (hf : Canonical f) (hg : Canonical g) :
    Approximates (value f + value g) (add .binary32 f g) := by
  cases f with
  | notANumber | infinity => cases hf
  | zero s =>
    rw [value_zero, zero_add]
    cases g with
    | notANumber | infinity => cases hg
    | zero t => cases s <;> cases t <;> exact approximates_zero _
    | finite t n d hn => exact hg.approximates
  | finite s m e hm =>
    cases g with
    | notANumber | infinity => cases hg
    | zero t =>
      rw [value_zero, add_zero]
      exact hf.approximates
    | finite t n d hn =>
      have happrox := approximates_normalize
        (s.apply (decreaseExponent m e (min e d)).1 + t.apply (decreaseExponent n d (min e d)).1)
        (min e d) .positive
      rw [Int.cast_add, add_mul, value_decreaseExponent s m (min_le_left e d),
        value_decreaseExponent t n (min_le_right e d)] at happrox
      exact happrox

theorem approximates_sub (hf : Canonical f) (hg : Canonical g) :
    Approximates (value f - value g) (sub .binary32 f g) := by
  cases f with
  | notANumber | infinity => cases hf
  | zero s =>
    rw [value_zero, zero_sub]
    cases g with
    | notANumber | infinity => cases hg
    | zero t =>
      rw [value_zero, neg_zero]
      cases s <;> cases t <;> exact approximates_zero _
    | finite t n d hn =>
      rw [← value_neg]
      exact hg.neg.approximates
  | finite s m e hm =>
    cases g with
    | notANumber | infinity => cases hg
    | zero t =>
      rw [value_zero, sub_zero]
      exact hf.approximates
    | finite t n d hn =>
      have happrox := approximates_normalize
        (s.apply (decreaseExponent m e (min e d)).1 - t.apply (decreaseExponent n d (min e d)).1)
        (min e d) .positive
      rw [Int.cast_sub, sub_mul, value_decreaseExponent s m (min_le_left e d),
        value_decreaseExponent t n (min_le_right e d)] at happrox
      exact happrox

/-! ## Products -/

theorem approximates_mul (hf : Canonical f) (hg : Canonical g) :
    Approximates (value f * value g) (mul .binary32 f g) := by
  cases f with
  | notANumber | infinity => cases hf
  | zero s =>
    rw [value_zero, zero_mul]
    cases g with
    | notANumber | infinity => cases hg
    | zero t | finite t => exact approximates_zero _
  | finite s m e hm =>
    cases g with
    | notANumber | infinity => cases hg
    | zero t =>
      rw [value_zero, mul_zero]
      exact approximates_zero _
    | finite t n d hn =>
      obtain ⟨-, he, hfnormal⟩ := hf
      obtain ⟨-, hd, hgnormal⟩ := hg
      have hfit : e + d ≤ Format.binary32.targetExponent (totalExponent (m * n) (e + d)) := by
        refine le_targetExponent fun hlt => ?_
        by_cases hnormal : -149 < e
        · exact (hfnormal hnormal).trans (Nat.le_mul_of_pos_right m hn)
        · exact (hgnormal (by omega)).trans (Nat.le_mul_of_pos_left n hm)
      have hexact : Describes ((m * n : ℕ) : ℝ) (m * n) .exact := rfl
      have happrox := approximates_roundWithAccuracy (s * t) hexact hfit
      have hvalue : ((m * n : ℕ) : ℝ) * 2 ^ (e + d) = m * 2 ^ e * (n * 2 ^ d) := by
        rw [zpow_add₀ two_ne_zero]
        push_cast
        ring
      rw [hvalue, signed_mul] at happrox
      exact happrox

/-! ## Quotients -/

theorem describes_accuracyOfFraction (a b : ℕ) (hb : 0 < b) :
    Describes (a / b) (a / b) (accuracyOfFraction (a % b) b) := by
  have hb' : (0 : ℝ) < b := by exact_mod_cast hb
  have hsplit : (a : ℝ) / b = (a / b : ℕ) + (a % b : ℕ) / b := by
    rw [div_eq_iff hb'.ne', add_mul, div_mul_cancel₀ _ hb'.ne']
    exact_mod_cast (Nat.div_add_mod' a b).symm
  rw [hsplit, accuracyOfFraction]
  split
  next hzero => simp [Describes, hzero]
  next hpos =>
    have hlt : a % b < b := Nat.mod_lt a hb
    have hpos' : (0 : ℝ) < (a % b : ℕ) := by exact_mod_cast Nat.pos_of_ne_zero hpos
    cases hcompare : compare (2 * (a % b)) b with
    | lt =>
      have h : ((2 * (a % b) : ℕ) : ℝ) < b := by exact_mod_cast Nat.compare_eq_lt.1 hcompare
      push_cast at h
      refine ⟨by have := div_pos hpos' hb'; linarith, ?_⟩
      rw [add_lt_add_iff_left, div_lt_iff₀ hb']
      linarith
    | eq =>
      have h : ((2 * (a % b) : ℕ) : ℝ) = b := by exact_mod_cast Nat.compare_eq_eq.1 hcompare
      push_cast at h
      simp only [Describes]
      rw [add_right_inj, div_eq_iff hb'.ne']
      linarith
    | gt =>
      have h : (b : ℝ) < (2 * (a % b) : ℕ) := by exact_mod_cast Nat.compare_eq_gt.1 hcompare
      have h' : ((a % b : ℕ) : ℝ) < b := by exact_mod_cast hlt
      push_cast at h
      simp only [Describes]
      rw [add_lt_add_iff_left, add_lt_add_iff_left, lt_div_iff₀ hb', div_lt_one hb']
      exact ⟨by linarith, h'⟩

theorem approximates_div (hf : Canonical f) (hg : Canonical g) (h0 : value g ≠ 0) :
    Approximates (value f / value g) (div .binary32 f g) := by
  cases g with
  | notANumber | infinity => cases hg
  | zero t => exact absurd rfl h0
  | finite t n d hn =>
    cases f with
    | notANumber | infinity => cases hf
    | zero s =>
      rw [value_zero, zero_div]
      exact approximates_zero _
    | finite s m e hm =>
      set t' := min (e - d)
        (Format.binary32.targetExponent (totalExponent m e - totalExponent n d)) with ht'
      set k := (e - d - t').toNat with hk
      have hfit : t' ≤ Format.binary32.targetExponent (totalExponent ((m <<< k) / n) t') := by
        refine le_targetExponent fun hlt => ?_
        rw [Nat.le_div_iff_mul_le hn]
        have hlog : n < 2 ^ (n.log2 + 1) := Nat.lt_log2_self
        have hbits : 23 + (n.log2 + 1) ≤ m.log2 + k := by
          simp only [Format.targetExponent, totalExponent, Format.mantissaBits, Format.minExponent]
            at ht'
          norm_num at ht'
          omega
        calc 2 ^ 23 * n ≤ 2 ^ 23 * 2 ^ (n.log2 + 1) := Nat.mul_le_mul_left _ hlog.le
          _ = 2 ^ (23 + (n.log2 + 1)) := (Nat.pow_add ..).symm
          _ ≤ m <<< k := two_pow_le_shiftLeft hm hbits
      have happrox := approximates_roundWithAccuracy (s / t)
        (describes_accuracyOfFraction (m <<< k) n hn) hfit
      have hvalue : ((m <<< k : ℕ) : ℝ) / n * 2 ^ t' = m * 2 ^ e / (n * 2 ^ d) := by
        have hk' : t' = e - d - k := by omega
        rw [hk', Nat.shiftLeft_eq, zpow_sub₀ two_ne_zero, zpow_sub₀ two_ne_zero, zpow_natCast]
        push_cast
        field_simp
      rw [hvalue, signed_div] at happrox
      exact happrox

/-! ## Square roots -/

theorem describes_sqrt (a : ℕ) :
    Describes (√a) (Nat.sqrt a) (if a - Nat.sqrt a * Nat.sqrt a = 0 then .exact
      else .inexact (if a - Nat.sqrt a * Nat.sqrt a ≤ Nat.sqrt a then .lt else .gt)) := by
  set r := Nat.sqrt a with hr
  have hle : r * r ≤ a := Nat.sqrt_le a
  have hlt : a < (r + 1) * (r + 1) := Nat.lt_succ_sqrt a
  split
  next hzero =>
    have heq : (a : ℝ) = r * r := by exact_mod_cast (by omega : a = r * r)
    simp only [Describes]
    rw [heq, Real.sqrt_mul_self (Nat.cast_nonneg r)]
  next hpos =>
    have hroot : (r : ℝ) < √a := by
      rw [Real.lt_sqrt (Nat.cast_nonneg r), pow_two]
      exact_mod_cast (by omega : r * r < a)
    split
    next hhalf =>
      refine ⟨hroot, ?_⟩
      have hle' : (a : ℝ) ≤ r * r + r := by exact_mod_cast (by omega : a ≤ r * r + r)
      rw [Real.sqrt_lt' (by positivity)]
      nlinarith
    next hhalf =>
      constructor
      · have hge : (r : ℝ) * r + r + 1 ≤ a := by exact_mod_cast (by omega : r * r + r + 1 ≤ a)
        rw [Real.lt_sqrt (by positivity)]
        nlinarith
      · rw [Real.sqrt_lt' (by positivity), pow_two]
        exact_mod_cast hlt

theorem approximates_sqrt (hf : Canonical f) (h0 : 0 ≤ value f) :
    Approximates (√(value f)) (sqrt .binary32 f) := by
  cases f with
  | notANumber | infinity => cases hf
  | zero s =>
    rw [value_zero, Real.sqrt_zero]
    exact approximates_zero s
  | finite s m e hm =>
    have hm' : (0 : ℝ) < m := by exact_mod_cast hm
    cases s with
    | negative =>
      have hpos : (0 : ℝ) < m * 2 ^ e := by positivity
      exact absurd h0 (not_le.2 (neg_neg_iff_pos.2 hpos))
    | positive =>
      set t := min (e.ediv 2)
        (Format.binary32.targetExponent ((totalExponent m e + 1).ediv 2)) with ht
      set k := (e - 2 * t).toNat with hk
      have hfit : t ≤ Format.binary32.targetExponent (totalExponent (Nat.sqrt (m <<< k)) t) := by
        refine le_targetExponent fun hlt => ?_
        rw [Nat.le_sqrt, ← Nat.pow_add]
        refine two_pow_le_shiftLeft hm ?_
        simp only [Format.targetExponent, totalExponent, Format.mantissaBits, Format.minExponent]
          at ht
        norm_num at ht
        have hhalf : (m.log2 + 1 + e + 1).ediv 2 = (m.log2 + 1 + e + 1) / 2 := rfl
        have hhalf' : e.ediv 2 = e / 2 := rfl
        omega
      have happrox := approximates_roundWithAccuracy .positive (describes_sqrt (m <<< k)) hfit
      have hvalue : √((m <<< k : ℕ) : ℝ) * 2 ^ t = √(m * 2 ^ e) := by
        have hk' : e = k + 2 * t := by
          have hhalf' : e.ediv 2 = e / 2 := rfl
          omega
        have hsquare : (m : ℝ) * 2 ^ e = (m <<< k : ℕ) * (2 ^ t * 2 ^ t) := by
          rw [hk', Nat.shiftLeft_eq, zpow_add₀ two_ne_zero, two_mul, zpow_add₀ two_ne_zero,
            zpow_natCast]
          push_cast
          ring
        rw [hsquare, Real.sqrt_mul (Nat.cast_nonneg _), Real.sqrt_mul_self (by positivity)]
      rw [hvalue] at happrox
      exact happrox

end Cityscape.Single

import Cityscape.Proofs.Grid

/-!
# Counts nearest to numbers

A number that is rounded and cut off to a count gives the nearest whole number, as long as that is
one that a machine word can hold: a number that is not positive counts as zero, and so does one that
is not a number, and a number that is too large counts as the largest word.

## Main definitions

* `Single.nearestCount` — the nearest count, which is infinite for an infinite number.

## Main statements

* `Single.toReal_round` — a half goes up, and rounding is exact.
* `Single.whole_max_round` — what a rounded number is cut off to.
-/

namespace Cityscape.Single

open Float.Model (Format UnpackedFloat)
open Float.Model.UnpackedFloat

variable {a : Float32}

/-! ## What is left of a number behind its whole part -/

theorem mul_two_pow_natCast (m k : ℕ) : (m : ℝ) * 2 ^ (k : ℤ) = (m * 2 ^ k : ℕ) := by
  push_cast
  rw [zpow_natCast]

theorem exists_parts_positive (ha : Finite a) (hpos : 0 < toReal a) :
    ∃ (m : ℕ) (e : ℤ), toReal a = m * 2 ^ e ∧ m < 2 ^ 24 ∧ -149 ≤ e := by
  have hcanonical := ha.canonical
  unfold toReal at hpos ⊢
  cases hp : parts a with
  | notANumber | infinity => rw [hp] at hcanonical; cases hcanonical
  | zero s => rw [hp, value_zero] at hpos; exact absurd hpos (lt_irrefl _)
  | finite s m e hm =>
    rw [hp] at hcanonical hpos
    obtain ⟨hlt, he, -⟩ := hcanonical
    cases s with
    | negative => exact absurd hpos (not_lt.2 (neg_nonpos.2 (by positivity)))
    | positive => exact ⟨m, e, value_finite _ m e hm, hlt, he⟩

/-- What is left of binary digits behind the point are the last ones of them. -/
theorem sub_floor_digits (m k : ℕ) :
    (m : ℝ) * 2 ^ (-k : ℤ) - ⌊(m : ℝ) * 2 ^ (-k : ℤ)⌋₊ = ((m % 2 ^ k : ℕ) : ℤ) * 2 ^ (-k : ℤ) := by
  have hdiv : (m : ℝ) * 2 ^ (-k : ℤ) = m / (2 ^ k : ℕ) := by
    rw [zpow_neg, zpow_natCast, ← div_eq_mul_inv]
    push_cast
    rfl
  have hsplit : (m : ℝ) = (2 ^ k : ℕ) * (m / 2 ^ k : ℕ) + (m % 2 ^ k : ℕ) := by
    exact_mod_cast (Nat.div_add_mod m (2 ^ k)).symm
  have hne : ((2 ^ k : ℕ) : ℝ) ≠ 0 := by positivity
  rw [hdiv, Nat.floor_div_eq_div, sub_eq_iff_eq_add, div_eq_iff hne, zpow_neg, zpow_natCast,
    Int.cast_natCast]
  push_cast at hsplit hne ⊢
  rw [add_mul, mul_assoc, inv_mul_cancel₀ hne]
  linarith

/-- A number without its whole part has no more digits than the number. -/
theorem isRounding_sub_floor (ha : Finite a) (h0 : 0 ≤ toReal a) :
    IsRounding (toReal a - ⌊toReal a⌋₊) (toReal a - ⌊toReal a⌋₊) := by
  obtain hzero | hpos := h0.eq_or_lt
  · rw [← hzero, Nat.floor_zero, Nat.cast_zero, sub_zero]
    exact isRounding_zero
  obtain ⟨m, e, hvalue, hlt, he⟩ := exists_parts_positive ha hpos
  rw [hvalue]
  by_cases hwhole : 0 ≤ e
  · -- The digits end before the point.
    obtain ⟨k, rfl⟩ := Int.eq_ofNat_of_zero_le hwhole
    rw [mul_two_pow_natCast, Nat.floor_natCast, sub_self]
    exact isRounding_zero
  · obtain ⟨k, rfl⟩ : ∃ k : ℕ, e = -k := ⟨(-e).toNat, by omega⟩
    have hfew : |((m % 2 ^ k : ℕ) : ℤ)| < 2 ^ 24 := by
      have := Nat.mod_le m (2 ^ k)
      rw [abs_of_nonneg (by positivity)]
      omega
    rw [sub_floor_digits]
    exact .of_digits hfew he

/-- A large number is a whole one. -/
theorem floor_of_le (ha : Finite a) (h : 2 ^ 23 ≤ toReal a) : (⌊toReal a⌋₊ : ℝ) = toReal a := by
  obtain ⟨m, e, hvalue, hlt, -⟩ := exists_parts_positive ha (lt_of_lt_of_le (by norm_num) h)
  have hwhole : 0 ≤ e := by
    by_contra hfraction
    have hsmall : (2 : ℝ) ^ e ≤ 2 ^ (-1 : ℤ) := zpow_le_zpow_right₀ one_le_two (by omega)
    have hm : (m : ℝ) < 2 ^ 24 := by exact_mod_cast hlt
    have hlow : (m : ℝ) * 2 ^ e ≤ m * 2 ^ (-1 : ℤ) := by gcongr
    rw [hvalue] at h
    rw [zpow_neg_one] at hlow
    linarith
  obtain ⟨k, rfl⟩ := Int.eq_ofNat_of_zero_le hwhole
  rw [hvalue, mul_two_pow_natCast, Nat.floor_natCast]

theorem toReal_half : Finite 0.5 ∧ toReal 0.5 = 1 / 2 := by
  have hparts : parts 0.5 = .finite .positive 8388608 (-24) (by decide) := rfl
  unfold Finite toReal
  rw [hparts]
  refine ⟨rfl, ?_⟩
  rw [value_finite, signed]
  norm_num

theorem floor_add_half {x : ℝ} (hx : 0 ≤ x) :
    ⌊x + 1 / 2⌋₊ = if 1 / 2 ≤ x - ⌊x⌋₊ then ⌊x⌋₊ + 1 else ⌊x⌋₊ := by
  have hlow := Nat.floor_le hx
  have hhigh := Nat.lt_floor_add_one x
  rw [Nat.floor_eq_iff (by positivity)]
  split
  · push_cast
    constructor <;> linarith
  · constructor <;> linarith

/-! ## Rounding -/

/-- The whole number that a magnitude is rounded to. -/
theorem toReal_magnitude (ha : Finite a) (h0 : 0 ≤ toReal a) (hlt : toReal a < 2 ^ 23) :
    let magnitude := if (0.5 : Float32) ≤ a - truncate a then truncate a + 1 else truncate a
    Finite magnitude ∧ toReal magnitude = ⌊toReal a + 1 / 2⌋₊ := by
  intro magnitude
  obtain ⟨hlow, hlowReal⟩ := toReal_truncate ha h0 hlt
  have hsub := ha.sub hlow
  rw [hlowReal] at hsub
  have hunit : |toReal a - ⌊toReal a⌋₊| < 1 := by
    have := Nat.floor_le h0
    have := Nat.lt_floor_add_one (toReal a)
    rw [abs_lt]
    constructor <;> linarith
  obtain ⟨hrest, hrestReal⟩ := hsub.finite (isRounding_sub_floor ha h0) (hunit.trans (by norm_num))
  have hiff : (0.5 : Float32) ≤ a - truncate a ↔ 1 / 2 ≤ toReal a - ⌊toReal a⌋₊ := by
    rw [le_iff_toReal toReal_half.1 hrest, toReal_half.2, hrestReal]
  have hfew : ⌊toReal a⌋₊ < 2 ^ 23 := by
    rw [Nat.floor_lt h0]
    exact_mod_cast hlt
  rw [floor_add_half h0]
  by_cases hhalf : 1 / 2 ≤ toReal a - ⌊toReal a⌋₊
  · have hadd := hlow.add toReal_one.1
    rw [hlowReal, toReal_one.2] at hadd
    simp only [magnitude, if_pos (hiff.2 hhalf), if_pos hhalf]
    exact toReal_of_rounds (by exact_mod_cast hadd) (by omega)
  · simp only [magnitude, if_neg (mt hiff.1 hhalf), if_neg hhalf]
    exact ⟨hlow, hlowReal⟩

theorem toReal_wholeFrom : Finite wholeFrom ∧ toReal wholeFrom = 2 ^ 23 := by
  obtain ⟨hfin, hreal⟩ := toReal_ofNat (n := 8388608) (by norm_num)
  exact ⟨hfin, hreal.trans (by norm_num)⟩

/-- From a certain magnitude on a number is rounded to itself. -/
theorem round_of_le (ha : Finite a) (h : 2 ^ 23 ≤ |toReal a|) : round a = a := by
  obtain ⟨habs, habsReal⟩ := toReal_abs ha
  refine if_neg ?_
  rw [lt_iff_toReal habs toReal_wholeFrom.1, habsReal, toReal_wholeFrom.2]
  exact not_lt.2 h

theorem finite_of_abs_lt (h : a.abs < wholeFrom) : Finite a := by
  rw [lt_iff, parts_abs] at h
  cases hp : parts a with
  | notANumber =>
    rw [hp] at h
    cases h
  | infinity s =>
    have habs : (infinity s : UnpackedFloat).abs = .infinity .positive := rfl
    have hfrom : parts wholeFrom = .finite .positive 8388608 0 (by decide) := rfl
    rw [hp, habs, repack_infinity, hfrom] at h
    cases h
  | zero | finite => rw [Finite, hp]; rfl

/-- What is infinite or not a number is rounded to itself. -/
theorem round_of_not_finite (ha : ¬ Finite a) : round a = a := if_neg (mt finite_of_abs_lt ha)

/-- A number that is not negative is rounded to the nearest whole number; a half goes up. -/
theorem toReal_round (ha : Finite a) (h0 : 0 ≤ toReal a) (hlt : toReal a < 2 ^ 23) :
    Finite (round a) ∧ toReal (round a) = ⌊toReal a + 1 / 2⌋₊ := by
  obtain ⟨habs, habsReal⟩ := toReal_abs ha
  rw [abs_of_nonneg h0] at habsReal
  obtain ⟨hmagnitude, hmagnitudeReal⟩ :=
    toReal_magnitude habs (habsReal ▸ h0) (habsReal ▸ hlt)
  rw [habsReal] at hmagnitudeReal
  have hsmall : a.abs < wholeFrom := by
    rw [lt_iff_toReal habs toReal_wholeFrom.1, habsReal, toReal_wholeFrom.2]
    exact hlt
  have hpos : ¬ a < 0 := by
    rw [lt_iff_toReal ha finite_zero, toReal_zero]
    exact not_lt.2 h0
  unfold round
  rw [if_pos hsmall]
  split
  next hzero =>
    have hzero' : toReal a = 0 := (beq_iff_toReal ha finite_zero).1 hzero
    refine ⟨ha, ?_⟩
    rw [hzero']
    norm_num
  · exact ⟨hmagnitude, hmagnitudeReal⟩

/-- A number is rounded to the opposite of what its opposite is rounded to. -/
theorem toReal_round_neg (ha : Finite a) (h0 : toReal a < 0) (hlow : -2 ^ 23 < toReal a) :
    Finite (round a) ∧ toReal (round a) = -⌊-toReal a + 1 / 2⌋₊ := by
  obtain ⟨habs, habsReal⟩ := toReal_abs ha
  rw [abs_of_neg h0] at habsReal
  obtain ⟨hmagnitude, hmagnitudeReal⟩ :=
    toReal_magnitude habs (by rw [habsReal]; linarith) (by rw [habsReal]; linarith)
  have hsmall : a.abs < wholeFrom := by
    rw [lt_iff_toReal habs toReal_wholeFrom.1, habsReal, toReal_wholeFrom.2]
    linarith
  have hzero : ¬ (a == 0) = true := by
    rw [beq_iff_toReal ha finite_zero, toReal_zero]
    exact h0.ne
  have hneg : a < 0 := by
    rw [lt_iff_toReal ha finite_zero, toReal_zero]
    exact h0
  obtain ⟨hfinite, hreal⟩ := toReal_neg hmagnitude
  unfold round
  rw [if_pos hsmall, if_neg hzero]
  simp only [if_pos hneg]
  exact ⟨hfinite, by rw [hreal, hmagnitudeReal, habsReal]⟩

/-- A negative number is not rounded to a positive one. -/
theorem toReal_round_nonpos (ha : Finite a) (h0 : toReal a < 0) :
    Finite (round a) ∧ toReal (round a) ≤ 0 := by
  by_cases hlarge : 2 ^ 23 ≤ |toReal a|
  · rw [round_of_le ha hlarge]
    exact ⟨ha, h0.le⟩
  · rw [not_le, abs_of_neg h0] at hlarge
    obtain ⟨hfinite, hreal⟩ := toReal_round_neg ha h0 (by linarith)
    rw [hreal]
    exact ⟨hfinite, neg_nonpos.2 (Nat.cast_nonneg _)⟩

/-! ## Cutting off -/

/-- A number that is not negative is cut off to its whole part, and to the largest word if that is
too large. -/
theorem toNat_toUInt64_eq_min (ha : Finite a) (h0 : 0 ≤ toReal a) :
    a.toUInt64.toNat = min ⌊toReal a⌋₊ wordLimit := by
  by_cases hlt : toReal a < 2 ^ 64
  · have hfew : ⌊toReal a⌋₊ < 2 ^ 64 := by
      rw [Nat.floor_lt h0]
      exact_mod_cast hlt
    rw [toNat_toUInt64 ha h0 hlt, min_eq_left (by unfold wordLimit; omega)]
  · have hmany : 2 ^ 64 ≤ ⌊toReal a⌋₊ := Nat.le_floor (by exact_mod_cast not_lt.1 hlt)
    have hlimit : wordLimit ≤ ⌊toReal a⌋₊ := by
      unfold wordLimit
      omega
    have hword : a.toUInt64 = UInt64.ofNatClamp ((parts a).toInt 0 (UInt64.size - 1)).toNat := rfl
    rw [hword, toInt_eq_floor ha h0, Int.toNat_natCast, UInt64.toNat_ofNatClamp_of_le hmany]
    exact (min_eq_right hlimit).symm

/-- An infinite number is cut off to the largest word. -/
theorem toNat_toUInt64_infinity (h : parts a = .infinity .positive) :
    a.toUInt64.toNat = wordLimit := by
  have hword : a.toUInt64 = UInt64.ofNatClamp ((parts a).toInt 0 (UInt64.size - 1)).toNat := rfl
  rw [hword, h]
  rfl

/-! ## The nearest count -/

/-- The count that is nearest to a number, where a half goes up; zero for a number that is not
positive or not a number, and infinite for an infinite one. -/
noncomputable def nearestCount (a : Float32) : ℕ∞ :=
  match parts a with
  | .notANumber | .infinity .negative => 0
  | .infinity .positive => ⊤
  | .zero _ | .finite .. => nearestNat (toReal a)

theorem nearestCount_eq (ha : Finite a) : nearestCount a = ⌊toReal a + 1 / 2⌋₊ := by
  unfold nearestCount
  unfold Finite at ha
  cases hp : parts a with
  | notANumber | infinity => rw [hp] at ha; cases ha
  | zero | finite => rfl

/-- The larger one of a finite number and zero. -/
theorem toReal_max_zero (ha : Finite a) :
    Finite (Scalar.max a 0) ∧ toReal (Scalar.max a 0) = max (toReal a) 0 := by
  unfold Scalar.max
  split
  next hneg =>
    rw [lt_iff_toReal ha finite_zero, toReal_zero] at hneg
    exact ⟨finite_zero, (max_eq_right hneg.le).symm⟩
  next hpos =>
    rw [lt_iff_toReal ha finite_zero, toReal_zero, not_lt] at hpos
    rw [if_pos ((beq_iff_toReal ha ha).2 rfl)]
    exact ⟨ha, (max_eq_left hpos).symm⟩

theorem max_zero_notANumber (h : parts a = .notANumber) : Scalar.max a 0 = 0 := by
  have hlt : ¬ a < 0 := by
    rw [lt_iff, h]
    exact nofun
  have hself : ¬ (a == a) = true := by
    rw [beq_eq, h]
    exact nofun
  rw [Scalar.max, if_neg hlt, if_neg hself]

theorem max_zero_infinity (h : parts a = .infinity .positive) : Scalar.max a 0 = a := by
  have hlt : ¬ a < 0 := by
    rw [lt_iff, h]
    exact nofun
  have hself : (a == a) = true := by
    rw [beq_eq, h]
    rfl
  rw [Scalar.max, if_neg hlt, if_pos hself]

/-- A finite number that is rounded, and replaced by zero if it is negative, has the whole part of
the number with a half added. -/
theorem floor_max_round (ha : Finite a) :
    Finite (Scalar.max (round a) 0) ∧ 0 ≤ toReal (Scalar.max (round a) 0) ∧
      ⌊toReal (Scalar.max (round a) 0)⌋₊ = ⌊toReal a + 1 / 2⌋₊ := by
  obtain hneg | h0 := lt_or_ge (toReal a) 0
  · -- Nothing is left of a negative number.
    obtain ⟨hround, hnonpos⟩ := toReal_round_nonpos ha hneg
    obtain ⟨hmax, hmaxReal⟩ := toReal_max_zero hround
    rw [max_eq_right hnonpos] at hmaxReal
    have hfloor : ⌊toReal a + 1 / 2⌋₊ = 0 := by
      rw [Nat.floor_eq_zero]
      linarith
    exact ⟨hmax, hmaxReal.ge, by rw [hmaxReal, hfloor, Nat.floor_zero]⟩
  obtain hlt | hlarge := lt_or_ge (toReal a) (2 ^ 23)
  · obtain ⟨hround, hroundReal⟩ := toReal_round ha h0 hlt
    obtain ⟨hmax, hmaxReal⟩ := toReal_max_zero hround
    rw [hroundReal, max_eq_left (Nat.cast_nonneg _)] at hmaxReal
    exact ⟨hmax, hmaxReal ▸ Nat.cast_nonneg _, by rw [hmaxReal, Nat.floor_natCast]⟩
  · -- A large number is whole, and so it is nearest to itself.
    rw [round_of_le ha (hlarge.trans (le_abs_self _))]
    obtain ⟨hmax, hmaxReal⟩ := toReal_max_zero ha
    rw [max_eq_left h0] at hmaxReal
    have hwhole : ⌊toReal a + 1 / 2⌋₊ = ⌊toReal a⌋₊ := by
      rw [floor_add_half h0, if_neg]
      rw [floor_of_le ha hlarge]
      norm_num
    exact ⟨hmax, hmaxReal ▸ h0, by rw [hmaxReal, hwhole]⟩

/-- A number that is rounded, and replaced by zero if it is negative, is cut off to the nearest
count, and to the largest word if that is too large. -/
theorem whole_max_round (a : Float32) :
    (Scalar.whole (Scalar.max (round a) 0) : ℕ∞) = min (nearestCount a) wordLimit := by
  change ((Scalar.max (round a) 0).toUInt64.toNat : ℕ∞) = _
  by_cases ha : Finite a
  · obtain ⟨hfinite, h0, hfloor⟩ := floor_max_round ha
    rw [nearestCount_eq ha, ← Nat.mono_cast.map_min, toNat_toUInt64_eq_min hfinite h0, hfloor]
  · rw [round_of_not_finite ha]
    unfold nearestCount
    cases hp : parts a with
    | notANumber =>
      rw [max_zero_notANumber hp]
      rfl
    | infinity s =>
      cases s with
      | negative =>
        have hneg : a < 0 := by
          rw [lt_iff, hp]
          rfl
        rw [Scalar.max, if_pos hneg]
        rfl
      | positive =>
        rw [max_zero_infinity hp, toNat_toUInt64_infinity hp]
        exact (min_eq_right le_top).symm
    | zero | finite => exact absurd (by rw [Finite, hp]; rfl) ha

end Cityscape.Single

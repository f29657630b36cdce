import Cityscape.Proofs.Scalar.Within

/-!
# Whole numbers

Counts as single-precision numbers, and single-precision numbers cut off to counts.

## Main statements

* `Single.toReal_ofNat` — counts of up to 24 digits are exact.
* `Single.toNat_toUInt64` — cutting off leaves the whole part.
* `Single.toReal_ceil` — the least whole number that is not smaller.
-/

namespace Cityscape.Single

open Float.Model (Format UnpackedFloat)
open Float.Model.UnpackedFloat

variable {f : UnpackedFloat} {a : Float32} {n : ℕ}

/-! ## Counts -/

theorem roundToInt_eq (m : ℕ) (e : ℤ) : roundToInt .positive m e = ⌊(m : ℝ) * 2 ^ e⌋₊ := by
  set k := (e - 0).toNat with hk
  set j := (0 - (e - k)).toNat with hj
  have hexact : Describes ((m <<< k : ℕ) : ℝ) (m <<< k) .exact := rfl
  have hshift := (describes_shiftRight (describes_ofMantissaAndAccuracy hexact) j).floor
  have hscale : ((m <<< k : ℕ) : ℝ) / 2 ^ j = m * 2 ^ e := by
    have he : e = k - j := by omega
    rw [he, Nat.shiftLeft_eq, zpow_sub₀ two_ne_zero, zpow_natCast, zpow_natCast]
    push_cast
    rw [mul_div_assoc]
  rw [hscale] at hshift
  change ((ExtendedMantissa.ofMantissaAndAccuracy (m <<< k) .exact >>> j).mantissa : ℤ) = _
  exact_mod_cast ((Nat.floor_eq_iff (by positivity)).2 hshift).symm

/-- The whole part of a number that is not negative, however large. -/
theorem toInt_eq_floor (ha : Finite a) (h0 : 0 ≤ toReal a) :
    (parts a).toInt 0 (UInt64.size - 1) = ⌊toReal a⌋₊ := by
  unfold Finite at ha
  unfold toReal at h0 ⊢
  cases hp : parts a with
  | notANumber | infinity => rw [hp] at ha; cases ha
  | zero s => simp [value_zero, toInt]
  | finite s m e hm =>
    rw [hp] at h0
    have hpos : (0 : ℝ) < m * 2 ^ e := by positivity
    cases s with
    | negative => exact absurd h0 (not_le.2 (neg_neg_iff_pos.2 hpos))
    | positive => exact roundToInt_eq m e

/-- The whole part of a number that is not negative and not too large. -/
theorem toNat_toUInt64 (ha : Finite a) (h0 : 0 ≤ toReal a) (hlt : toReal a < 2 ^ 64) :
    a.toUInt64.toNat = ⌊toReal a⌋₊ := by
  have hword : a.toUInt64 = UInt64.ofNatClamp ((parts a).toInt 0 (UInt64.size - 1)).toNat := rfl
  have hsize : ⌊toReal a⌋₊ < UInt64.size := by
    rw [Nat.floor_lt h0]
    exact_mod_cast hlt
  rw [hword, toInt_eq_floor ha h0, Int.toNat_natCast, UInt64.toNat_ofNatClamp_of_lt hsize]

/-- Counts with few digits are numbers. -/
theorem toReal_of_rounds (h : Rounds n a) (hn : n < 2 ^ 24) : Finite a ∧ toReal a = n := by
  refine h.finite (isRounding_natCast hn) ?_
  rw [Nat.abs_cast]
  exact_mod_cast hn.trans (by norm_num)

theorem toReal_ofNat (hn : n < 2 ^ 24) :
    Finite (Float32.ofNat n) ∧ toReal (Float32.ofNat n) = n :=
  toReal_of_rounds (rounds_ofNat n) hn

/-- Counts between others are numbers between theirs. -/
theorem within_ofNat {l h : ℕ} (hl : l ≤ n) (hh : n ≤ h) (hlt : h < 2 ^ 24) :
    Within (Float32.ofNat l) (Float32.ofNat h) (Float32.ofNat n) := by
  obtain ⟨hlow, hlowReal⟩ := toReal_ofNat (n := l) (by omega)
  obtain ⟨hhigh, hhighReal⟩ := toReal_ofNat hlt
  obtain ⟨hn, hreal⟩ := toReal_ofNat (n := n) (by omega)
  refine .of_toReal hlow hhigh hn ?_
  rw [hlowReal, hhighReal, hreal]
  exact ⟨by exact_mod_cast hl, by exact_mod_cast hh⟩

theorem toReal_truncate (ha : Finite a) (h0 : 0 ≤ toReal a) (hlt : toReal a < 2 ^ 23) :
    Finite (truncate a) ∧ toReal (truncate a) = ⌊toReal a⌋₊ := by
  have hcount := toNat_toUInt64 ha h0 (hlt.trans (by norm_num))
  have hfew : ⌊toReal a⌋₊ < 2 ^ 24 := by
    rw [Nat.floor_lt h0]
    exact_mod_cast hlt.trans (by norm_num)
  exact toReal_of_rounds (hcount ▸ rounds_toFloat32 a.toUInt64) hfew

theorem parts_abs (a : Float32) : parts a.abs = repack (parts a).abs := rfl

theorem toReal_abs (ha : Finite a) : Finite a.abs ∧ toReal a.abs = |toReal a| := by
  have hcanonical : Canonical (parts a).abs := by
    have h := ha.canonical
    cases hp : parts a <;> rw [hp] at h <;> exact h
  have hvalue : value (parts a).abs = |toReal a| := by
    unfold toReal
    cases hp : parts a with
    | finite s m e hm => exact (abs_signed s (by positivity : 0 ≤ (m : ℝ) * 2 ^ e)).symm
    | _ => exact abs_zero.symm
  have hround : Rounds |toReal a| a.abs := ⟨_, hvalue ▸ hcanonical.approximates, parts_abs a⟩
  refine hround.finite (hvalue ▸ hcanonical.approximates.2) ?_
  rw [abs_abs]
  exact ha.abs_lt

theorem toReal_neg (ha : Finite a) : Finite (-a) ∧ toReal (-a) = -toReal a := by
  have hround : Rounds (-toReal a) (-a) :=
    ⟨_, value_neg (parts a) ▸ ha.canonical.neg.approximates, rfl⟩
  refine hround.finite ha.isRounding.neg ?_
  rw [abs_neg]
  exact ha.abs_lt

/-! ## The next whole number -/

/-- The least whole number that is not smaller. -/
theorem toReal_ceil (ha : Finite a) (h0 : 0 ≤ toReal a) (hlt : toReal a < 2 ^ 23) :
    Finite (ceil a) ∧ toReal (ceil a) = ⌈toReal a⌉₊ := by
  obtain ⟨hfrom, hfromReal⟩ := toReal_ofNat (n := 8388608) (by norm_num)
  obtain ⟨habs, habsReal⟩ := toReal_abs ha
  rw [abs_of_nonneg h0] at habsReal
  obtain ⟨hlow, hlowReal⟩ := toReal_truncate habs (habsReal ▸ h0) (habsReal ▸ hlt)
  rw [habsReal] at hlowReal
  have hsmall : a.abs < wholeFrom := by
    refine (lt_iff_toReal habs hfrom).2 ?_
    rw [habsReal, hfromReal]
    exact_mod_cast hlt
  have hpos : ¬ a < 0 := by
    rw [lt_iff_toReal ha finite_zero, toReal_zero]
    exact not_lt.2 h0
  have hfloor := Nat.floor_le h0
  simp only [ceil, if_pos hsmall, if_neg hpos]
  split
  next hzero =>
    have hzero' : toReal a = 0 := (beq_iff_toReal ha finite_zero).1 hzero
    simp [ha, hzero']
  split
  next hfraction =>
    rw [lt_iff_toReal hlow ha, hlowReal] at hfraction
    have hceil : ⌈toReal a⌉₊ = ⌊toReal a⌋₊ + 1 := by
      rw [Nat.ceil_eq_iff (by omega), Nat.add_sub_cancel]
      exact ⟨hfraction, by exact_mod_cast (Nat.lt_floor_add_one _).le⟩
    have hfew : ⌈toReal a⌉₊ < 2 ^ 24 := by
      have hle : ⌈toReal a⌉₊ ≤ 2 ^ 23 := Nat.ceil_le.2 (by exact_mod_cast hlt.le)
      omega
    have hadd := hlow.add toReal_one.1
    rw [hlowReal, toReal_one.2] at hadd
    exact toReal_of_rounds (by rw [hceil]; exact_mod_cast hadd) hfew
  next hwhole =>
    rw [lt_iff_toReal hlow ha, hlowReal, not_lt] at hwhole
    refine ⟨hlow, hlowReal.trans ?_⟩
    have heq : toReal a = ⌊toReal a⌋₊ := le_antisymm hwhole hfloor
    conv_rhs => rw [heq, Nat.ceil_natCast]

end Cityscape.Single

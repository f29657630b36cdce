import Cityscape.Fault
import Cityscape.Proofs.Scalar.Magnitude
import Cityscape.Proofs.Scalar.Whole

/-!
# Results that are numbers

Finite numbers have a sum, a difference and a product, which may be infinite. An infinite number
still has a sum and a difference with a finite one and a product with one that is not zero, so a
place that is computed from finite numbers in few steps is made of numbers.

## Main statements

* `Single.Finite.add_isDefined`, `Single.Finite.mul_isDefined` — sums and products.
* `Single.Finite.within_largest`, `Single.Finite.mul_unit`, `Single.Finite.sub_one` — finite
  results.
* `Single.isDefined_roundWhole` — a number rounded to a whole one is a number.
* `Vec2.isNumber_distance_of_finite` — how far it is to a finite place is a number.
-/

namespace Cityscape

namespace Single

open Float.Model (UnpackedFloat)
open Float.Model.UnpackedFloat

variable {x : ℝ} {a b : Float32} {f g : UnpackedFloat}

theorem Canonical.isDefined (h : Canonical f) : IsDefined f := by
  cases f with
  | notANumber => cases h
  | _ => trivial

theorem Rounds.isDefined (h : Rounds x a) : IsDefined (parts a) := by
  obtain ⟨f, ⟨hf, -⟩, hparts⟩ := h
  rw [hparts]
  exact hf.isDefined.repack

theorem Finite.isDefined (h : Finite a) : IsDefined (parts a) := h.canonical.isDefined

theorem Finite.rounds (h : Finite a) : Rounds (toReal a) a :=
  ⟨parts a, h.canonical.approximates, (repack_parts a).symm⟩

theorem isDefined_of_isNumber (h : Scalar.IsNumber a) : IsDefined (parts a) := by
  have hne := parts_ne_of_le h.le_self
  cases hp : parts a with
  | notANumber => exact absurd hp hne
  | _ => trivial

/-- No number lies above positive infinity. -/
theorem le_infinity (ha : IsDefined (parts a)) (hb : parts b = .infinity .positive) : a ≤ b := by
  rw [le_iff, hb]
  cases hp : parts a with
  | notANumber => rw [hp] at ha; cases ha
  | infinity s => cases s <;> rfl
  | zero s => cases s <;> rfl
  | finite s m e hm => cases s <;> rfl

/-- No number lies below negative infinity. -/
theorem infinity_le (hb : IsDefined (parts b)) (ha : parts a = .infinity .negative) : a ≤ b := by
  rw [le_iff, ha]
  cases hp : parts b with
  | notANumber => rw [hp] at hb; cases hb
  | infinity s => cases s <;> rfl
  | zero s => cases s <;> rfl
  | finite s m e hm => cases s <;> rfl

/-! ## Sums, differences and products -/

theorem isDefined_add (hf : f.isFinite = true) (hg : IsDefined g) :
    IsDefined (add .binary32 f g) := by
  cases f with
  | notANumber | infinity => cases hf
  | zero s =>
    cases g with
    | notANumber => cases hg
    | zero t => cases s <;> cases t <;> trivial
    | infinity t | finite t n d hn => trivial
  | finite s m e hm =>
    cases g with
    | notANumber => cases hg
    | zero t | infinity t => trivial
    | finite t n d hn => exact isDefined_normalize _ _ _

theorem IsDefined.sub_finite (hf : IsDefined f) (hg : g.isFinite = true) :
    IsDefined (sub .binary32 f g) := by
  cases g with
  | notANumber | infinity => cases hg
  | zero t =>
    cases f with
    | notANumber => cases hf
    | zero s => cases s <;> cases t <;> trivial
    | infinity s | finite s m e hm => trivial
  | finite t n d hn =>
    cases f with
    | notANumber => cases hf
    | zero s | infinity s => trivial
    | finite s m e hm => exact isDefined_normalize _ _ _

theorem IsDefined.mul_finite (h : IsDefined f) (s : Sign) (n : ℕ) (d : ℤ) (hn : 0 < n) :
    IsDefined (mul .binary32 f (.finite s n d hn)) := by
  cases f with
  | notANumber => cases h
  | zero t | infinity t => trivial
  | finite t m e hm => exact isDefined_round _ _ _ _

theorem Finite.add_isDefined (ha : Finite a) (hb : IsDefined (parts b)) :
    IsDefined (parts (a + b)) := by
  rw [parts_add]
  exact (isDefined_add ha hb).repack

theorem Finite.mul_isDefined (ha : Finite a) (hb : Finite b) : IsDefined (parts (a * b)) :=
  (ha.mul hb).isDefined

/-- Any number has a product with a positive finite one. -/
theorem IsDefined.mul_pos (ha : IsDefined (parts a)) (hb : Finite b) (hpos : 0 < b) :
    IsDefined (parts (a * b)) := by
  rw [parts_mul]
  have hreal := Within.toReal_pos hb hpos
  unfold Finite at hb
  unfold toReal at hreal
  cases hp : parts b with
  | notANumber | infinity => rw [hp] at hb; cases hb
  | zero s => rw [hp] at hreal; exact absurd hreal (lt_irrefl _)
  | finite s n d hn => exact (ha.mul_finite s n d hn).repack

/-! ## Finite results -/

theorem toReal_largest : Finite largest ∧ toReal largest = 16777215 * 2 ^ (104 : ℤ) := by
  have hparts : parts largest = .finite .positive 16777215 104 (by decide) := rfl
  unfold Finite toReal
  rw [hparts]
  refine ⟨rfl, ?_⟩
  rw [value_finite, signed]
  norm_num

theorem Finite.abs_le_largest (h : Finite a) : |toReal a| ≤ toReal largest := by
  have hlt := h.abs_lt
  have hcanonical := h.canonical
  rw [toReal_largest.2]
  unfold toReal at hlt ⊢
  cases hp : parts a with
  | notANumber | infinity => rw [hp] at hcanonical; cases hcanonical
  | zero s =>
    rw [value_zero, abs_zero]
    positivity
  | finite s m e hm =>
    rw [hp] at hcanonical hlt
    obtain ⟨hdigits, he, hnormal⟩ := hcanonical
    rw [value_finite, abs_signed s (by positivity)] at hlt ⊢
    have hexponent : e ≤ 104 := by
      by_contra hge
      exact absurd hlt (not_lt.2 (two_pow_le_value hnormal (by omega)))
    have hm' : (m : ℝ) ≤ 16777215 := by exact_mod_cast Nat.le_of_lt_succ hdigits
    gcongr
    exact one_le_two

/-- No finite number lies beyond the largest one. -/
theorem Finite.within_largest (h : Finite a) : Within (-largest) largest a := by
  obtain ⟨hneg, hnegReal⟩ := toReal_neg toReal_largest.1
  refine .of_toReal hneg toReal_largest.1 h ?_
  rw [hnegReal]
  exact abs_le.1 h.abs_le_largest

/-- A finite number less one is finite. -/
theorem Finite.sub_one (h : Finite a) : Finite (a - 1) := by
  have hwithin : Within (-largest) largest (a - 1) :=
    h.within_largest.sub (.refl toReal_one.1) (by decide +kernel)
  exact hwithin.finite

/-- A finite number times a factor between minus one and one is finite. -/
theorem Finite.mul_unit (ha : Finite a) (hb : Within (-1) 1 b) : Finite (a * b) := by
  obtain ⟨habs, habsReal⟩ := toReal_abs ha
  obtain ⟨hneg, hnegReal⟩ := toReal_neg habs
  have hbounds : toReal (-a.abs) ≤ toReal a.abs := by
    rw [hnegReal, habsReal]
    exact neg_le_self (abs_nonneg _)
  have hlow : Within (-a.abs) a.abs (-a.abs) := .of_toReal hneg habs hneg ⟨le_rfl, hbounds⟩
  have hhigh : Within (-a.abs) a.abs a.abs := .of_toReal hneg habs habs ⟨hbounds, le_rfl⟩
  refine (Within.of_rounds hlow hhigh hneg.rounds habs.rounds (ha.mul hb.finite) ?_).finite
  have hunit : |toReal b| ≤ 1 := by
    obtain ⟨hlower, hupper⟩ := hb.toReal_mem
    rw [(toReal_neg toReal_one.1).2, toReal_one.2] at hlower
    rw [toReal_one.2] at hupper
    exact abs_le.2 ⟨hlower, hupper⟩
  rw [hnegReal, habsReal, Set.uIcc_of_le (neg_le_self (abs_nonneg _)), Set.mem_Icc, ← abs_le,
    abs_mul]
  exact mul_le_of_le_one_right (abs_nonneg _) hunit

/-- The counts of half words are finite numbers. -/
theorem within_ofNat_halfWord {n : ℕ} (hn : n ≤ halfWordLimit) :
    Within 0 (Float32.ofNat halfWordLimit) (Float32.ofNat n) := by
  have hreal : ((0 : ℕ) : ℝ) ≤ n ∧ (n : ℝ) ≤ halfWordLimit :=
    ⟨by exact_mod_cast n.zero_le, by exact_mod_cast hn⟩
  have hbounds : ∀ k ∈ [0, halfWordLimit],
      Within 0 (Float32.ofNat halfWordLimit) (Float32.ofNat k) := by decide +kernel
  exact .of_rounds (hbounds 0 (by simp)) (hbounds halfWordLimit (by simp)) (rounds_ofNat 0)
    (rounds_ofNat halfWordLimit) (rounds_ofNat n) (Set.mem_uIcc_of_le hreal.1 hreal.2)

/-! ## Rounding to whole numbers -/

theorem isDefined_neg (h : IsDefined (parts a)) : IsDefined (parts (-a)) := by
  have hneg : IsDefined (parts a).neg := by
    cases hp : parts a with
    | notANumber => rw [hp] at h; cases h
    | _ => trivial
  exact hneg.repack

theorem isDefined_abs (h : IsDefined (parts a)) : IsDefined (parts a.abs) := by
  have habs : IsDefined (parts a).abs := by
    cases hp : parts a with
    | notANumber => rw [hp] at h; cases h
    | _ => trivial
  exact habs.repack

/-- A number rounded to a whole one is a number. -/
theorem isDefined_roundWhole (h : IsDefined (parts a)) : IsDefined (parts (round a)) := by
  have hlow : IsDefined (parts (truncate a.abs)) := (rounds_toFloat32 _).isDefined
  have hnext : IsDefined (parts (truncate a.abs + 1)) := by
    rw [parts_add]
    exact (hlow.add_finite toReal_one.1).repack
  have hmagnitude : IsDefined (parts (if (0.5 : Float32) ≤ a.abs - truncate a.abs
      then truncate a.abs + 1 else truncate a.abs)) := by
    split
    · exact hnext
    · exact hlow
  unfold round
  split
  · split
    · exact h
    · dsimp only
      split
      · exact isDefined_neg hmagnitude
      · exact hmagnitude
  · exact h

end Single

open Single in
/-- How far it is from anywhere to a finite place is a number. -/
theorem Vec2.isNumber_distance_of_finite {v w : Vec2 Float32}
    (hv : IsDefined (parts v.x) ∧ IsDefined (parts v.y)) (hw : w.IsFinite) :
    Scalar.IsNumber (v.distance w) := by
  have hx : IsDefined (parts (v.x - w.x)) := (hv.1.sub_finite hw.1).repack
  have hy : IsDefined (parts (v.y - w.y)) := (hv.2.sub_finite hw.2).repack
  have hsum : IsMagnitude (parts ((v.x - w.x) * (v.x - w.x) + (v.y - w.y) * (v.y - w.y))) :=
    (hx.mul_self.repack.add hy.mul_self.repack).repack
  exact isNumber_of_isDefined hsum.sqrt.repack.isDefined

end Cityscape

import Cityscape.Proofs.Random.Bounds
import Cityscape.Proofs.Scalar.Predecessor

/-!
# Widths of intervals

The width of an interval is made smaller until its greatest fraction does not lead beyond the upper
bound. A width of zero leads nowhere, so a fitting one is found before the numbers below the width
are used up. A random number between finite bounds is therefore drawn, and lies between them, unless
the bounds are so far apart that their width is not finite.

## Main definitions

* `RandomStream.span` — the width between two bounds in any order.

## Main statements

* `RandomStream.drawable_of_width` — a finite width can be fitted.
* `RandomStream.exists_range` — what is drawn between finite bounds.
* `RandomStream.range_eq_error_iff` — when nothing is drawn.
-/

namespace Cityscape.RandomStream

open Single

variable {low high width product a b : Float32}

/-! ## Fitting a width -/

theorem greatestFraction_spec : Within 0 1 (greatestFraction : Float32) ∧
    0 < (greatestFraction : Float32) := by
  decide +kernel

/-- What is added to the lower bound does not lead below it. -/
theorem within_sum (hlow : Finite low) (hhigh : Finite high) (hproduct : Finite product)
    (h0 : 0 ≤ toReal product) (hfits : ¬ high < product + low) :
    Within low high (product + low) := by
  have hsum := hproduct.add hlow
  have hge : low ≤ product + low := hlow.rounds.le hsum (le_add_of_nonneg_left h0)
  exact ⟨⟨hlow, hhigh⟩, hge, Scalar.Total.le_of_not_lt (isNumber_of_isDefined hhigh.isDefined)
    (isNumber_of_isDefined hsum.isDefined) hfits⟩

/-- A width that is not negative is made smaller until its greatest fraction does not pass the upper
bound. -/
theorem fitWidth_spec (hlow : Finite low) (hle : low ≤ high) {fuel : ℕ} (hwidth : Finite width)
    (h0 : 0 ≤ toReal width) (hfuel : countBelow width < fuel) :
    Finite (fitWidth low high fuel width) ∧ 0 ≤ toReal (fitWidth low high fuel width) ∧
      ¬ high < fitWidth low high fuel width * greatestFraction + low := by
  induction fuel generalizing width with
  | zero => exact absurd hfuel (Nat.not_lt_zero _)
  | succ fuel ih =>
    unfold fitWidth
    split
    next hpassed =>
      have hpos : 0 < toReal width := by
        -- a width of zero does not lead beyond the lower bound
        by_contra hnonpos
        have hzero : Within 0 0 width :=
          .of_toReal finite_zero finite_zero hwidth ⟨h0, not_lt.1 hnonpos⟩
        have hsum := (hzero.zero_mul greatestFraction_spec.1.finite).zero_add (.refl hlow)
        exact Scalar.Total.not_lt_of_le (Scalar.Ordered.le_trans hsum.2.2 hle) hpassed
      obtain ⟨hfin, hnonneg, hlt⟩ := pred_spec hwidth hpos
      have hless : pred width < width := (lt_iff_toReal hfin hwidth).2 hlt
      exact ih hfin hnonneg ((countBelow_lt hless).trans_le (Nat.le_of_lt_succ hfuel))
    next hfits => exact ⟨hwidth, h0, hfits⟩

/-- The width of an interval is not negative. -/
theorem toReal_width_nonneg (hle : low ≤ high) (hwidth : Finite ((high - low) / greatestFraction)) :
    0 ≤ toReal ((high - low) / greatestFraction) := by
  obtain ⟨hfraction, hpos⟩ := greatestFraction_spec
  have hreal := Within.toReal_pos hfraction.finite hpos
  have hdifference : Finite (high - low) := hwidth.of_div
  obtain ⟨hhigh, hlow⟩ := hdifference.of_sub
  have h0 : 0 ≤ toReal (high - low) := ((hhigh.sub hlow).isRounding hdifference).nonneg
    (sub_nonneg.2 ((le_iff_toReal hlow hhigh).1 hle))
  exact ((hdifference.div hfraction.finite hreal.ne').isRounding hwidth).nonneg
    (div_nonneg h0 hreal.le)

/-- A finite width can be fitted. -/
theorem drawable_of_width (hlt : low < high)
    (hwidth : Finite ((high - low) / greatestFraction)) : Drawable low high := by
  have hle : low ≤ high := Scalar.Ordered.le_of_lt hlt
  obtain ⟨hhigh, hlow⟩ := hwidth.of_div.of_sub
  obtain ⟨hfraction, hpos⟩ := greatestFraction_spec
  have hfuel : countBelow ((high - low) / greatestFraction) < 0x100000000 :=
    countBelow_lt_two_pow _
  obtain ⟨hfitted, hnonneg, hfits⟩ : Finite (fittedWidth low high) ∧
      0 ≤ toReal (fittedWidth low high) ∧
        ¬ high < fittedWidth low high * greatestFraction + low :=
    fitWidth_spec hlow hle hwidth (toReal_width_nonneg hle hwidth) hfuel
  rw [mul_comm] at hfits
  have hunit : Within (-1) 1 (greatestFraction : Float32) :=
    hfraction.mono (by decide +kernel) (by decide +kernel)
  have hproduct : Finite (greatestFraction * fittedWidth low high) := by
    rw [mul_comm]
    exact hfitted.mul_unit hunit
  have h0 : 0 ≤ toReal (greatestFraction * fittedWidth low high) :=
    ((hfraction.finite.mul hfitted).isRounding hproduct).nonneg
      (mul_nonneg (Within.toReal_pos hfraction.finite hpos).le hnonneg)
  have hzero : Within 0 0 (0 * fittedWidth low high) := Within.zero.zero_mul hfitted
  exact {
    lt := hlt
    width := hwidth
    fitted := hfitted
    least := .of_toReal finite_zero hproduct hzero.finite
      ⟨hzero.toReal_eq_zero.ge, hzero.toReal_eq_zero.trans_le h0⟩
    least_sum := Within.zero.zero_add ⟨⟨hlow, hhigh⟩, (Within.refl hlow).2.1, hle⟩
    greatest_sum := within_sum hlow hhigh hproduct h0 hfits }

/-! ## Bounds in any order -/

/-- The width between two bounds in any order. -/
def span (a b : Float32) : Float32 :=
  (Scalar.max a b - Scalar.min a b) / greatestFraction

theorem finite_min (ha : Finite a) (hb : Finite b) : Finite (Scalar.min a b) := by
  unfold Scalar.min
  split_ifs <;> assumption

theorem finite_max (ha : Finite a) (hb : Finite b) : Finite (Scalar.max a b) := by
  unfold Scalar.max
  split_ifs <;> assumption

/-- Bounds that are equal are their own minimum and maximum. -/
theorem min_max_of_beq (ha : Finite a) (hb : Finite b) (heq : (a == b) = true) :
    Scalar.min a b = a ∧ Scalar.max a b = a := by
  have hreal := (beq_iff_toReal ha hb).1 heq
  have hself : (a == a) = true := (beq_iff_toReal ha ha).2 rfl
  have hnot : ¬ a < b := fun h => ((lt_iff_toReal ha hb).1 h).ne hreal
  have hnot' : ¬ b < a := fun h => ((lt_iff_toReal hb ha).1 h).ne' hreal
  exact ⟨by rw [Scalar.min, if_neg hnot', if_pos hself],
    by rw [Scalar.max, if_neg hnot, if_pos hself]⟩

/-- Equal bounds have a width of zero. -/
theorem finite_span_of_beq (ha : Finite a) (hb : Finite b) (heq : (a == b) = true) :
    Finite (span a b) := by
  obtain ⟨hmin, hmax⟩ := min_max_of_beq ha hb heq
  obtain ⟨hfraction, hpos⟩ := greatestFraction_spec
  have hsub := ha.sub ha
  rw [sub_self] at hsub
  have hzero : Within 0 0 (a - a) := Within.zero.of_exact hsub
  have hwidth : Within 0 0 ((a - a) / greatestFraction) :=
    hzero.div_finite hfraction.finite hpos (by decide +kernel) (by decide +kernel)
  rw [span, hmin, hmax]
  exact hwidth.finite

/-- A number is drawn between the smaller and the larger of two bounds that differ. -/
theorem range_sorted (ha : Finite a) (hb : Finite b) (hne : ¬ (a == b) = true)
    (s : RandomStream) : Scalar.min a b < Scalar.max a b ∧
      s.range a b = s.range (Scalar.min a b) (Scalar.max a b) := by
  have hself : (a == a) = true := (beq_iff_toReal ha ha).2 rfl
  rw [beq_iff_toReal ha hb] at hne
  obtain hlt | hgt := lt_or_gt_of_ne hne
  · have hless : a < b := (lt_iff_toReal ha hb).2 hlt
    have hnot : ¬ b < a := fun h => hlt.not_gt ((lt_iff_toReal hb ha).1 h)
    rw [Scalar.min, Scalar.max, if_neg hnot, if_pos hself, if_pos hless]
    exact ⟨hless, rfl⟩
  · have hless : b < a := (lt_iff_toReal hb ha).2 hgt
    have hnot : ¬ a < b := fun h => hgt.not_gt ((lt_iff_toReal ha hb).1 h)
    have hle : b ≤ a := Scalar.Ordered.le_of_lt hless
    have hnotLe : ¬ a ≤ b := fun h => Scalar.Total.not_lt_of_le h hless
    have hisA : Scalar.isFinite a = true := ha
    have hisB : Scalar.isFinite b = true := hb
    rw [Scalar.min, Scalar.max, if_pos hless, if_neg hnot, if_pos hself]
    refine ⟨hless, ?_⟩
    simp only [range, hisA, hisB, if_neg hnotLe, if_pos hle]

/-- Between finite bounds whose width is finite a number is drawn. -/
theorem exists_range (ha : Finite a) (hb : Finite b) (hspan : Finite (span a b))
    (s : RandomStream) :
    ∃ x s', s.range a b = .ok (x, s') ∧ Within (Scalar.min a b) (Scalar.max a b) x := by
  by_cases heq : (a == b) = true
  · have hisA : Scalar.isFinite a = true := ha
    have hisB : Scalar.isFinite b = true := hb
    have hle : a ≤ b := (le_iff_toReal ha hb).2 ((beq_iff_toReal ha hb).1 heq).le
    obtain ⟨hmin, hmax⟩ := min_max_of_beq ha hb heq
    rw [hmin, hmax]
    refine ⟨a, s, ?_, .refl ha⟩
    simp only [range, hisA, hisB, if_pos hle, if_pos heq]
  · obtain ⟨hlt, hrange⟩ := range_sorted ha hb heq s
    rw [hrange]
    exact (drawable_of_width hlt hspan).range s

/-- Between finite bounds whose width is not finite nothing is drawn. -/
theorem range_error (ha : Finite a) (hb : Finite b) (hspan : ¬ Finite (span a b))
    (s : RandomStream) : s.range a b = .error .badInterval := by
  by_cases heq : (a == b) = true
  · exact absurd (finite_span_of_beq ha hb heq) hspan
  · obtain ⟨hlt, hrange⟩ := range_sorted ha hb heq s
    rw [hrange]
    exact range_eq_error (finite_min ha hb) (finite_max ha hb) hlt hspan s

/-- Only finite bounds that are too far apart keep a number from being drawn. -/
theorem range_eq_error_iff {fault : Fault} (s : RandomStream) : s.range a b = .error fault ↔
    fault = .badInterval ∧ (Finite a ∧ Finite b) ∧ ¬ Finite (span a b) := by
  by_cases hfinite : Finite a ∧ Finite b
  · obtain ⟨ha, hb⟩ := id hfinite
    by_cases hspan : Finite (span a b)
    · obtain ⟨x, s', hx, -⟩ := exists_range ha hb hspan s
      simp [hx, hspan]
    · simp [range_error ha hb hspan, hfinite, hspan, eq_comm]
  · refine iff_of_false ?_ fun h => hfinite h.2.1
    -- a bound that is not finite gives way to the other one, or to zero
    have hbounds : ¬ (Scalar.isFinite a = true ∧ Scalar.isFinite b = true) := hfinite
    unfold range
    cases hisA : Scalar.isFinite a <;> cases hisB : Scalar.isFinite b <;>
      simp_all

end Cityscape.RandomStream

import Cityscape.Grammar.Value
import Cityscape.Proofs.Scalar.Whole

/-!
# Bounds of random numbers

A random number is a fraction of a width, added to the lower bound. The width was fitted so that
rounding does not lead beyond the upper bound; whether it was fitted well is a matter of the two
bounds, and is decided for them.

## Main definitions

* `RandomStream.greatestUnit` — the greatest number that is drawn from zero up to one.
* `RandomStream.Drawable` — bounds between which random numbers stay.

## Main statements

* `RandomStream.unit_within` — draws from zero up to one.
* `RandomStream.Drawable.range`, `RandomStream.range_eq_error` — draws between two bounds.
-/

namespace Cityscape.RandomStream

open Single

variable {low high : Float32}

/-- The greatest number that is drawn from zero up to one. -/
def greatestUnit : Float32 := Float32.ofNat 16777215 / 16777216.0

/-- No number that is drawn from zero up to one is greater than the greatest one. -/
theorem unit_within (s : RandomStream) :
    Within 0 greatestUnit (s.unit : Float32 × RandomStream).1 := by
  have hcount : (s.word.1 >>> 8).toNat ≤ 16777215 := by
    rw [UInt32.toNat_shiftRight, Nat.shiftRight_eq_div_pow]
    have := s.word.1.toNat_lt
    change _ / 2 ^ 8 ≤ _
    omega
  exact (within_ofNat (Nat.zero_le _) hcount (by norm_num)).div_finite (by decide +kernel)
    (by decide +kernel) (by decide +kernel) (by decide +kernel)

/-- No fraction is greater than the greatest one. -/
theorem fraction_within (s : RandomStream) :
    Within 0 greatestFraction (s.fraction : Float32 × RandomStream).1 := by
  have hcount : (s.word.1 >>> 9).toNat ≤ 8388607 := by
    rw [UInt32.toNat_shiftRight, Nat.shiftRight_eq_div_pow]
    have := s.word.1.toNat_lt
    change _ / 2 ^ 9 ≤ _
    omega
  exact (within_ofNat (Nat.zero_le _) hcount (by norm_num)).div_finite (by decide +kernel)
    (by decide +kernel) (by decide +kernel) (by decide +kernel)

/-- The width of which a random number from a closed interval takes a fraction. -/
def fittedWidth (low high : Float32) : Float32 :=
  fitWidth low high 0x100000000 ((high - low) / greatestFraction)

/-- The fractions of the fitted width do not lead out of an interval. -/
structure Drawable (low high : Float32) : Prop where
  lt : low < high
  width : Finite ((high - low) / greatestFraction)
  fitted : Finite (fittedWidth low high)
  least : Within 0 (greatestFraction * fittedWidth low high) (0 * fittedWidth low high)
  least_sum : Within low high (0 + low)
  greatest_sum : Within low high (greatestFraction * fittedWidth low high + low)

instance : Decidable (Drawable low high) :=
  decidable_of_iff (low < high ∧ Finite ((high - low) / greatestFraction) ∧
      Finite (fittedWidth low high) ∧
      Within 0 (greatestFraction * fittedWidth low high) (0 * fittedWidth low high) ∧
      Within low high (0 + low) ∧
      Within low high (greatestFraction * fittedWidth low high + low))
    ⟨fun ⟨h₁, h₂, h₃, h₄, h₅, h₆⟩ => ⟨h₁, h₂, h₃, h₄, h₅, h₆⟩,
      fun ⟨h₁, h₂, h₃, h₄, h₅, h₆⟩ => ⟨h₁, h₂, h₃, h₄, h₅, h₆⟩⟩

/-- A random number from a closed interval lies in the interval. -/
theorem Drawable.range (h : Drawable low high) (s : RandomStream) :
    ∃ a s', s.range low high = .ok (a, s') ∧ Within low high a := by
  obtain ⟨hfinLow, hfinHigh⟩ := h.least_sum.1
  have hle : low ≤ high := Scalar.Ordered.le_of_lt h.lt
  have hne : ¬ (low == high) = true := by
    rw [beq_iff_toReal hfinLow hfinHigh]
    exact ((lt_iff_toReal hfinLow hfinHigh).1 h.lt).ne
  have hisLow : Scalar.isFinite low = true := hfinLow
  have hisHigh : Scalar.isFinite high = true := hfinHigh
  have hbetween : low ≤ high ∧ Scalar.isFinite ((high - low) / greatestFraction) := ⟨hle, h.width⟩
  obtain ⟨v, s', hv⟩ : ∃ v s', (s.fraction : Float32 × RandomStream) = (v, s') := ⟨_, _, rfl⟩
  have hfraction := s.fraction_within
  rw [hv] at hfraction
  refine ⟨v * fittedWidth low high + low, s', ?_, ?_⟩
  · simp only [RandomStream.range, hisLow, hisHigh, if_pos hle, if_neg hne, between,
      if_pos hbetween, hv]
    rfl
  · have hgreatest : Within 0 (greatestFraction * fittedWidth low high)
        (greatestFraction * fittedWidth low high) :=
      ⟨h.least.1, Scalar.Ordered.le_trans h.least.2.1 h.least.2.2, (Within.refl h.least.1.2).2.1⟩
    exact (hfraction.mul_finite h.fitted h.least hgreatest).add (.refl hfinLow)
      (by simpa using ⟨h.least_sum, h.greatest_sum⟩)

/-- Nothing is drawn between finite bounds that are too far apart. -/
theorem range_eq_error (hfinLow : Finite low) (hfinHigh : Finite high) (hlt : low < high)
    (hwidth : ¬ Finite ((high - low) / greatestFraction)) (s : RandomStream) :
    s.range low high = .error .badInterval := by
  have hisLow : Scalar.isFinite low = true := hfinLow
  have hisHigh : Scalar.isFinite high = true := hfinHigh
  have hle : low ≤ high := Scalar.Ordered.le_of_lt hlt
  have hne : ¬ (low == high) = true := by
    rw [beq_iff_toReal hfinLow hfinHigh]
    exact ((lt_iff_toReal hfinLow hfinHigh).1 hlt).ne
  simp only [RandomStream.range, hisLow, hisHigh, if_pos hle, if_neg hne]
  exact if_neg fun h => hwidth h.2

end Cityscape.RandomStream

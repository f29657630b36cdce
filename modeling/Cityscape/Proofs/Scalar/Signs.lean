import Cityscape.Proofs.Scalar.Counts
import Cityscape.Proofs.Scalar.Sums

/-!
# Numbers that are not above zero

A number that is not above zero is negative, a zero or not a number. Dividing it by a positive
number or going on to the next whole number does not lead above zero, also where the numbers are
infinite.

## Main statements

* `Single.not_pos_div`, `Single.not_pos_ceil` — what does not lead above zero.
* `Single.max_one_of_not_pos` — a number that is not above zero is passed over for one.
-/

namespace Cityscape.Single

open Float.Model (UnpackedFloat)
open Float.Model.UnpackedFloat

variable {a b : Float32}

theorem null_or_infinity (ha : ¬ Finite a) : Null a ∨ ∃ s, parts a = .infinity s := by
  unfold Null Finite at *
  cases hp : parts a with
  | notANumber => exact .inl trivial
  | infinity s => exact .inr ⟨s, rfl⟩
  | zero | finite => exact absurd (by rw [hp]; rfl) ha

theorem null_of_not_lt (hneg : ¬ a < 0) (hpos : ¬ 0 < a) : Null a := by
  rw [lt_iff] at hneg hpos
  unfold Null
  cases hp : parts a with
  | notANumber | zero => trivial
  | infinity s | finite s =>
    rw [hp] at hneg hpos
    cases s with
    | negative => exact absurd rfl hneg
    | positive => exact absurd rfl hpos

theorem toReal_nonpos (ha : Finite a) (h : ¬ 0 < a) : toReal a ≤ 0 := by
  rw [lt_iff_toReal finite_zero ha, toReal_zero] at h
  exact not_lt.1 h

/-- A part of a number that is not above zero is not above zero. -/
theorem not_pos_div (ha : ¬ 0 < a) (hb : 0 < b) : ¬ 0 < a / b := by
  by_cases hnull : Null a
  · exact (hnull.div b).not_pos
  have hbNull : ¬ Null b := fun h => h.not_pos hb
  by_cases hfa : Finite a
  · by_cases hfb : Finite b
    · have hbReal : 0 < toReal b := (lt_iff_toReal finite_zero hfb).1 hb
      have hzero : Rounds 0 0 := finite_zero.rounds
      have hquotient : toReal a / toReal b ≤ 0 :=
        div_nonpos_of_nonpos_of_nonneg (toReal_nonpos hfa ha) hbReal.le
      exact Scalar.Total.not_lt_of_le ((hfa.div hfb hbReal.ne').le hzero hquotient)
    · -- A finite number has no part of an infinite one.
      obtain ⟨s, hs⟩ := (null_or_infinity hfb).resolve_left hbNull
      refine Null.not_pos ?_
      unfold Null Finite at *
      rw [parts_div, hs]
      cases hp : parts a with
      | notANumber | zero => exact absurd (hp ▸ trivial) hnull
      | infinity => rw [hp] at hfa; cases hfa
      | finite => exact IsNull.repack trivial
  · obtain ⟨s, hs⟩ := (null_or_infinity hfa).resolve_left hnull
    rw [lt_iff] at ha hb ⊢
    rw [hs] at ha
    rw [parts_div, hs]
    cases s with
    | positive => exact absurd rfl ha
    | negative =>
      cases hp : parts b with
      | notANumber => exact Bool.false_ne_true
      | infinity s => cases s <;> exact Bool.false_ne_true
      | zero => rw [hp] at hb; cases hb
      | finite s m e hm =>
        cases s with
        | negative => rw [hp] at hb; cases hb
        | positive =>
          change ¬ (zero .positive).lt (repack (infinity .negative)) = true
          rw [repack_infinity]
          exact Bool.false_ne_true

/-- A number that is not above zero, or that is not a number, is passed over for one. -/
theorem max_one_of_not_pos (h : ¬ 0 < a) : Scalar.max a 1 = 1 := by
  by_cases hself : (a == a) = true
  · have hlt : a < 1 := by
      have hone : (0 : Float32) < 1 := by
        rw [lt_iff_toReal finite_zero toReal_one.1, toReal_zero, toReal_one.2]
        exact one_pos
      by_contra hge
      have hle' : 1 ≤ a :=
        Scalar.Total.le_of_not_lt hself (isNumber_of_isDefined toReal_one.1.isDefined) hge
      exact h (Scalar.Total.lt_of_lt_of_le hone hle')
    rw [Scalar.max, if_pos hlt]
  · have hlt : ¬ a < 1 := by
      intro hlt
      exact hself (Scalar.Total.isNumber_of_le (Scalar.Ordered.le_of_lt hlt)).1
    rw [Scalar.max, if_neg hlt, if_neg hself]

/-- The next whole number after one that is not above zero is not above zero. -/
theorem not_pos_ceil (h : ¬ 0 < a) : ¬ 0 < ceil a := by
  by_cases hsmall : a.abs < wholeFrom
  · have ha : Finite a := finite_of_abs_lt hsmall
    unfold ceil
    rw [if_pos hsmall]
    by_cases hzero : (a == 0) = true
    · rw [if_pos hzero]
      exact h
    have hneg : toReal a < 0 := by
      rw [beq_iff_toReal ha finite_zero, toReal_zero] at hzero
      exact lt_of_le_of_ne (toReal_nonpos ha h) hzero
    have hlt : a < 0 := (lt_iff_toReal ha finite_zero).2 hneg
    obtain ⟨habs, habsReal⟩ := toReal_abs ha
    have hbound : toReal a.abs < 2 ^ 23 := by
      rw [← toReal_wholeFrom.2]
      exact (lt_iff_toReal habs toReal_wholeFrom.1).1 hsmall
    obtain ⟨hlow, hlowReal⟩ := toReal_truncate habs (habsReal ▸ abs_nonneg _) hbound
    obtain ⟨hopposite, hoppositeReal⟩ := toReal_neg hlow
    simp only [if_neg hzero, if_pos hlt]
    rw [lt_iff_toReal finite_zero hopposite, toReal_zero, hoppositeReal, hlowReal, not_lt]
    exact neg_nonpos.2 (Nat.cast_nonneg _)
  · unfold ceil
    rw [if_neg hsmall]
    exact h

end Cityscape.Single

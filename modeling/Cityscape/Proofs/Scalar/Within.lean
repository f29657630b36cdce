import Cityscape.Proofs.Scalar.Real

/-!
# Numbers between bounds

Rounding keeps the order, so what an operation makes of bounds is a bound of its result: whether a
result lies between two numbers is decided at the corners of the intervals of its operands.

## Main definitions

* `Single.Within` — the numbers between two finite ones.

## Main statements

* `Single.Within.of_rounds` — what is rounded from between two real numbers lies between what these
  are rounded to.
* `Single.Within.add`, `Single.Within.sub`, `Single.Within.mul`, `Single.Within.div`,
  `Single.Within.sqrt` — the corners decide.
-/

namespace Cityscape.Single

variable {x y z : ℝ} {a b c low high low₁ high₁ low₂ high₂ : Float32}

instance : Decidable (Finite a) := inferInstanceAs (Decidable (_ = true))

/-- The number lies between two finite ones, or is one of them. -/
def Within (low high a : Float32) : Prop := (Finite low ∧ Finite high) ∧ low ≤ a ∧ a ≤ high

instance : Decidable (Within low high a) := inferInstanceAs (Decidable (_ ∧ _))

namespace Within

theorem finite (h : Within low high a) : Finite a := h.1.1.of_le h.1.2 h.2.1 h.2.2

theorem refl (h : Finite a) : Within a a a :=
  ⟨⟨h, h⟩, (le_iff_toReal h h).2 le_rfl, (le_iff_toReal h h).2 le_rfl⟩

theorem toReal_mem (h : Within low high a) : toReal a ∈ Set.Icc (toReal low) (toReal high) :=
  ⟨(le_iff_toReal h.1.1 h.finite).1 h.2.1, (le_iff_toReal h.finite h.1.2).1 h.2.2⟩

theorem mono (h : Within low₁ high₁ a) (hlow : Within low high low₁)
    (hhigh : Within low high high₁) : Within low high a :=
  ⟨hlow.1, Scalar.Ordered.le_trans hlow.2.1 h.2.1, Scalar.Ordered.le_trans h.2.2 hhigh.2.2⟩

theorem of_toReal (hlow : Finite low) (hhigh : Finite high) (ha : Finite a)
    (h : toReal a ∈ Set.Icc (toReal low) (toReal high)) : Within low high a :=
  ⟨⟨hlow, hhigh⟩, (le_iff_toReal hlow ha).2 h.1, (le_iff_toReal ha hhigh).2 h.2⟩

/-- What lies between two real numbers lies between them after rounding. -/
theorem of_rounds (hb : Within low high b) (hc : Within low high c) (hx : Rounds x b)
    (hy : Rounds y c) (hz : Rounds z a) (h : z ∈ Set.uIcc x y) : Within low high a := by
  wlog hxy : x ≤ y generalizing x y b c
  · exact this hc hb hy hx (Set.uIcc_comm x y ▸ h) (le_of_not_ge hxy)
  obtain ⟨hxz, hzy⟩ : z ∈ Set.Icc x y := Set.uIcc_of_le hxy ▸ h
  obtain ⟨f, ⟨-, hround⟩, -⟩ := id hz
  have hlow : toReal low ≤ value f :=
    hb.toReal_mem.1.trans ((hx.isRounding hb.finite).le hround hxz)
  have hhigh : value f ≤ toReal high :=
    (hround.le (hy.isRounding hc.finite) hzy).trans hc.toReal_mem.2
  have habs : |value f| < 2 ^ 128 := by
    have hlow' := abs_lt.1 hb.1.1.abs_lt
    have hhigh' := abs_lt.1 hb.1.2.abs_lt
    exact abs_lt.2 ⟨hlow'.1.trans_le hlow, hhigh.trans_lt hhigh'.2⟩
  obtain ⟨ha, hreal⟩ := hz.finite hround habs
  exact of_toReal hb.1.1 hb.1.2 ha ⟨hreal ▸ hlow, hreal ▸ hhigh⟩

/-- A result that needs no rounding lies where its value does. -/
theorem of_exact (hb : Within low high b) (h : Rounds (toReal b) a) : Within low high a := by
  obtain ⟨ha, hreal⟩ := h.finite hb.finite.isRounding hb.finite.abs_lt
  exact of_toReal hb.1.1 hb.1.2 ha (hreal ▸ hb.toReal_mem)

/-! ## Zero and one -/

theorem toReal_eq_zero (h : Within 0 0 a) : toReal a = 0 :=
  le_antisymm h.toReal_mem.2 h.toReal_mem.1

protected theorem zero : Within 0 0 0 := .refl finite_zero

protected theorem mul_zero (ha : Finite a) (hb : Within 0 0 b) : Within 0 0 (a * b) := by
  refine Within.zero.of_exact ?_
  have hmul := ha.mul hb.finite
  rwa [hb.toReal_eq_zero, mul_zero] at hmul

protected theorem zero_mul (ha : Within 0 0 a) (hb : Finite b) : Within 0 0 (a * b) := by
  rw [mul_comm]
  exact .mul_zero hb ha

protected theorem mul_one (ha : Within low high a) : Within low high (a * 1) := by
  refine ha.of_exact ?_
  have hmul := ha.finite.mul toReal_one.1
  rwa [toReal_one.2, mul_one] at hmul

protected theorem one_mul (ha : Within low high a) : Within low high (1 * a) := by
  rw [mul_comm]
  exact ha.mul_one

protected theorem div_one (ha : Within low high a) : Within low high (a / 1) := by
  refine ha.of_exact ?_
  have hdiv := ha.finite.div toReal_one.1 (toReal_one.2.trans_ne one_ne_zero)
  rwa [toReal_one.2, div_one] at hdiv

protected theorem add_zero (ha : Within low high a) (hb : Within 0 0 b) :
    Within low high (a + b) := by
  refine ha.of_exact ?_
  have hadd := ha.finite.add hb.finite
  rwa [hb.toReal_eq_zero, add_zero] at hadd

protected theorem zero_add (ha : Within 0 0 a) (hb : Within low high b) :
    Within low high (a + b) := by
  refine hb.of_exact ?_
  have hadd := ha.finite.add hb.finite
  rwa [ha.toReal_eq_zero, zero_add] at hadd

protected theorem sub_zero (ha : Within low high a) (hb : Within 0 0 b) :
    Within low high (a - b) := by
  refine ha.of_exact ?_
  have hsub := ha.finite.sub hb.finite
  rwa [hb.toReal_eq_zero, sub_zero] at hsub

/-! ## Sums and differences -/

/-- A sum lies between the sums of the bounds. -/
protected theorem add (ha : Within low₁ high₁ a) (hb : Within low₂ high₂ b)
    (h : ∀ c ∈ [low₁ + low₂, high₁ + high₂], Within low high c) : Within low high (a + b) := by
  refine of_rounds (h _ (by simp)) (h _ (by simp)) (ha.1.1.add hb.1.1) (ha.1.2.add hb.1.2)
    (ha.finite.add hb.finite) ?_
  have hx := ha.toReal_mem
  have hy := hb.toReal_mem
  exact Set.mem_uIcc_of_le (add_le_add hx.1 hy.1) (add_le_add hx.2 hy.2)

/-- A difference lies between the differences of the bounds. -/
protected theorem sub (ha : Within low₁ high₁ a) (hb : Within low₂ high₂ b)
    (h : ∀ c ∈ [low₁ - high₂, high₁ - low₂], Within low high c) : Within low high (a - b) := by
  refine of_rounds (h _ (by simp)) (h _ (by simp)) (ha.1.1.sub hb.1.2) (ha.1.2.sub hb.1.1)
    (ha.finite.sub hb.finite) ?_
  have hx := ha.toReal_mem
  have hy := hb.toReal_mem
  exact Set.mem_uIcc_of_le (sub_le_sub hx.1 hy.2) (sub_le_sub hx.2 hy.1)

/-! ## Products and quotients -/

theorem mul_mem_uIcc {p q : ℝ} (h : x ∈ Set.Icc p q) (y : ℝ) :
    x * y ∈ Set.uIcc (p * y) (q * y) := by
  obtain ⟨hp, hq⟩ := h
  rcases le_total 0 y with hy | hy
  · exact Set.mem_uIcc_of_le (by gcongr) (by gcongr)
  · exact Set.mem_uIcc_of_ge (mul_le_mul_of_nonpos_right hq hy) (mul_le_mul_of_nonpos_right hp hy)

theorem mul_finite (ha : Within low₁ high₁ a) (hb : Finite b) (hlow : Within low high (low₁ * b))
    (hhigh : Within low high (high₁ * b)) : Within low high (a * b) :=
  of_rounds hlow hhigh (ha.1.1.mul hb) (ha.1.2.mul hb) (ha.finite.mul hb)
    (mul_mem_uIcc ha.toReal_mem _)

/-- A product lies between the products of the bounds. -/
protected theorem mul (ha : Within low₁ high₁ a) (hb : Within low₂ high₂ b)
    (h : ∀ c ∈ [low₁ * low₂, low₁ * high₂, high₁ * low₂, high₁ * high₂], Within low high c) :
    Within low high (a * b) := by
  have hfixed {p : Float32} (hp : Finite p) (hl : Within low high (p * low₂))
      (hh : Within low high (p * high₂)) : Within low high (p * b) := by
    rw [mul_comm] at hl hh ⊢
    exact hb.mul_finite hp hl hh
  exact ha.mul_finite hb.finite (hfixed ha.1.1 (h _ (by simp)) (h _ (by simp)))
    (hfixed ha.1.2 (h _ (by simp)) (h _ (by simp)))

theorem toReal_pos (h : Finite a) (hpos : 0 < a) : 0 < toReal a := by
  rw [lt_iff_toReal finite_zero h, toReal_zero] at hpos
  exact hpos

/-- No positive number lies below the least one. -/
theorem of_pos (hpos : 0 < a) (hle : a ≤ high) (hhigh : Finite high) :
    Within (Float32.ofBits 1) high a := by
  have ha : Finite a := finite_zero.of_le hhigh (Scalar.Ordered.le_of_lt hpos) hle
  have hleast : Finite (Float32.ofBits 1) := by decide +kernel
  refine ⟨⟨hleast, hhigh⟩, ?_, hle⟩
  have hreal := Within.toReal_pos ha hpos
  rw [le_iff_toReal hleast ha, toReal_least]
  have hcanonical := ha.canonical
  unfold toReal at hreal ⊢
  cases hparts : parts a with
  | notANumber | infinity => 
    rw [hparts] at hcanonical
    cases hcanonical
  | zero s =>
    rw [hparts] at hreal
    exact absurd hreal (lt_irrefl _)
  | finite s m e hm =>
    rw [hparts] at hcanonical hreal
    rw [value_finite] at hreal ⊢
    obtain ⟨-, he, -⟩ := hcanonical
    have hm' : (1 : ℝ) ≤ m := by exact_mod_cast hm
    cases s with
    | negative => exact absurd hreal (not_lt.2 (neg_nonpos.2 (by positivity)))
    | positive =>
      calc (2 : ℝ) ^ (-149 : ℤ) ≤ 2 ^ e := zpow_le_zpow_right₀ one_le_two he
        _ ≤ m * 2 ^ e := le_mul_of_one_le_left (by positivity) hm'
theorem pos (ha : Within low₁ high₁ a) (hpos : 0 < low₁) : 0 < a := by
  rw [lt_iff_toReal finite_zero ha.finite, toReal_zero]
  exact (toReal_pos ha.1.1 hpos).trans_le ha.toReal_mem.1

/-- A quotient by a fixed number lies between the quotients of the bounds. -/
theorem div_finite (ha : Within low₁ high₁ a) (hb : Finite b) (hpos : 0 < b)
    (hlow : Within low high (low₁ / b)) (hhigh : Within low high (high₁ / b)) :
    Within low high (a / b) := by
  have h0 : toReal b ≠ 0 := (toReal_pos hb hpos).ne'
  refine of_rounds hlow hhigh (ha.1.1.div hb h0) (ha.1.2.div hb h0) (ha.finite.div hb h0) ?_
  simp only [div_eq_mul_inv]
  exact mul_mem_uIcc ha.toReal_mem _

/-- A quotient by a positive number lies between the quotients of the bounds. -/
protected theorem div (ha : Within low₁ high₁ a) (hb : Within low₂ high₂ b) (hpos : 0 < low₂)
    (h : ∀ c ∈ [low₁ / low₂, low₁ / high₂, high₁ / low₂, high₁ / high₂], Within low high c) :
    Within low high (a / b) := by
  have hlow0 := toReal_pos hb.1.1 hpos
  have hb0 : 0 < toReal b := toReal_pos hb.finite (hb.pos hpos)
  have hhigh0 : 0 < toReal high₂ := hb0.trans_le hb.toReal_mem.2
  have hinv : (toReal b)⁻¹ ∈ Set.Icc (toReal high₂)⁻¹ (toReal low₂)⁻¹ :=
    ⟨inv_anti₀ hb0 hb.toReal_mem.2, inv_anti₀ hlow0 hb.toReal_mem.1⟩
  have hfixed {p : Float32} (hp : Finite p) (hl : Within low high (p / low₂))
      (hh : Within low high (p / high₂)) : Within low high (p / b) := by
    refine of_rounds hh hl (hp.div hb.1.2 hhigh0.ne') (hp.div hb.1.1 hlow0.ne')
      (hp.div hb.finite hb0.ne') ?_
    simp only [div_eq_inv_mul]
    exact mul_mem_uIcc hinv _
  exact ha.div_finite hb.finite (hb.pos hpos) (hfixed ha.1.1 (h _ (by simp)) (h _ (by simp)))
    (hfixed ha.1.2 (h _ (by simp)) (h _ (by simp)))

/-- A square root lies between the square roots of the bounds. -/
protected theorem sqrt (ha : Within low₁ high₁ a) (h0 : 0 ≤ low₁)
    (h : ∀ c ∈ [low₁.sqrt, high₁.sqrt], Within low high c) : Within low high a.sqrt := by
  have hmem := ha.toReal_mem
  have hlow0 : 0 ≤ toReal low₁ := (le_iff_toReal finite_zero ha.1.1).1 h0
  have ha0 := hlow0.trans hmem.1
  refine of_rounds (h _ (by simp)) (h _ (by simp)) (ha.1.1.sqrt hlow0)
    (ha.1.2.sqrt (ha0.trans hmem.2)) (ha.finite.sqrt ha0) ?_
  exact Set.mem_uIcc_of_le (Real.sqrt_le_sqrt hmem.1) (Real.sqrt_le_sqrt hmem.2)

end Within

end Cityscape.Single

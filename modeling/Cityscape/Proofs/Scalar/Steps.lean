import Cityscape.Proofs.Scalar.Sums

/-!
# Steps

A number to which steps are added stands still when a step is lost in rounding. A step that is
longer than a 2²³rd of the number is not lost. There are only finitely many numbers, so not many
steps lead from one number up to another.

## Main definitions

* `Single.countBelow` — how many numbers lie below a number.

## Main statements

* `Single.countBelow_lt`, `Single.countBelow_lt_two_pow` — there are more numbers below a larger
  number, and fewer than 2³² below any.
* `Single.lt_add` — a step that is not lost.
* `Single.lt_add_of_between` — a step that is lost nowhere between two bounds.
-/

namespace Cityscape

/-! ## Counting numbers -/

theorem Single.toBits_injective : Function.Injective Float32.toBits := by
  rintro ⟨⟨u, hu⟩⟩ ⟨⟨w, hw⟩⟩ h
  cases (h : u = w)
  rfl

instance finiteFloat32 : Finite Float32 := .of_injective _ Single.toBits_injective

namespace Single

open Float.Model (UnpackedFloat)
open Float.Model.UnpackedFloat

variable {x g v : ℝ} {a b d low high step : Float32}

theorem card_le_two_pow : Nat.card Float32 ≤ 2 ^ 32 := by
  have hinjective : Function.Injective fun a : Float32 => (⟨a.toBits.toNat, a.toBits.toNat_lt⟩ :
      Fin (2 ^ 32)) := fun a b h =>
    toBits_injective (UInt32.toNat_inj.1 (congrArg Fin.val h))
  exact (Nat.card_le_card_of_injective _ hinjective).trans_eq (Nat.card_fin _)

/-- How many numbers lie below a number. -/
noncomputable def countBelow (a : Float32) : ℕ := Set.ncard {c : Float32 | c < a}

theorem not_lt_self (a : Float32) : ¬ a < a := fun h =>
  Scalar.Total.not_lt_of_le (Scalar.Ordered.le_of_lt h) h

theorem countBelow_lt (h : a < b) : countBelow a < countBelow b := by
  have hle {c : Float32} (hc : c < a) : c < b :=
    Scalar.Ordered.lt_of_le_of_lt (Scalar.Ordered.le_of_lt hc) h
  refine Set.ncard_lt_ncard ⟨fun c => hle, fun hsub => ?_⟩ (Set.toFinite _)
  exact not_lt_self a (hsub h)

theorem countBelow_lt_two_pow (a : Float32) : countBelow a < 2 ^ 32 := by
  have hsub : {c : Float32 | c < a} ⊂ Set.univ :=
    ⟨Set.subset_univ _, fun h => not_lt_self a (h (Set.mem_univ a))⟩
  refine (Set.ncard_lt_ncard hsub (Set.toFinite _)).trans_le ?_
  rw [Set.ncard_univ]
  exact card_le_two_pow

/-! ## Steps that are not lost -/

/-- A real number to which more than a 2²³rd of it is added is not rounded back to it. -/
theorem IsRounding.lt_of_add (hx : IsRounding x x) (hg : |x| / 2 ^ 23 < g)
    (hleast : (2 : ℝ) ^ (-149 : ℤ) ≤ g) (h : IsRounding (x + g) v) : x < v := by
  have hpos : 0 < g := lt_of_lt_of_le (by positivity) hleast
  by_contra hle
  obtain rfl : x = v := le_antisymm (hx.le h (by linarith)) (not_lt.1 hle)
  obtain ⟨n, hn, hv⟩ := h
  set y := x + g with hy
  -- all of the step was lost, so it is at most half of the last place
  have hhalf : 2 * g ≤ 2 ^ lastPlace y := by
    have hdiff : y / 2 ^ lastPlace y - n = g / 2 ^ lastPlace y := by
      rw [eq_div_iff (by positivity), sub_mul, div_mul_cancel₀ _ (by positivity), ← hv, hy]
      ring
    have hnear := hn.1
    rw [hdiff, abs_of_pos (by positivity), div_le_iff₀ (by positivity)] at hnear
    linarith
  have hy0 : y ≠ 0 := by
    intro h0
    have hzero : x = 0 := IsRounding.eq ⟨n, hn, hv⟩ (h0 ▸ isRounding_zero)
    linarith
  have hlast : -149 ≤ lastPlace y := le_max_right _ _
  rcases hlast.eq_or_lt with hlast | hlast
  · rw [← hlast] at hhalf
    linarith
  · have hplace : lastPlace |y| = lastPlace y := by rw [lastPlace, lastPlace, abs_abs]
    have habs := two_pow_lastPlace_le (abs_pos.2 hy0) (hplace.symm ▸ hlast)
    rw [hplace] at habs
    have htriangle : |y| ≤ |x| + g := (abs_add_le x g).trans_eq (by rw [abs_of_pos hpos])
    rw [div_lt_iff₀ (by positivity)] at hg
    linarith

theorem lt_infinity (ha : Finite a) (hb : parts b = .infinity .positive) : a < b := by
  rw [lt_iff, hb]
  unfold Finite at ha
  cases hp : parts a with
  | notANumber | infinity => rw [hp] at ha; cases ha
  | zero s => rfl
  | finite s m e hm => cases s <;> rfl

/-- What lies above a number before it is stored lies above it afterwards, also when it is too
large. -/
theorem Rounds.lt (ha : Finite a) (h : Rounds x b) (hlt : ∀ v, IsRounding x v → toReal a < v) :
    a < b := by
  obtain ⟨f, ⟨hf, hround⟩, hparts⟩ := id h
  have hvalue := hlt _ hround
  by_cases hlarge : 2 ^ 128 ≤ value f
  · exact lt_infinity ha (hparts.trans (repack_of_le hf hlarge))
  · have hlow : -2 ^ 128 < value f := (abs_lt.1 ha.abs_lt).1.trans hvalue
    obtain ⟨hb, hreal⟩ := h.finite hround (abs_lt.2 ⟨hlow, not_le.1 hlarge⟩)
    rw [lt_iff_toReal ha hb, hreal]
    exact hvalue

/-- A step of more than a 2²³rd of a number is not lost. -/
theorem lt_add (hd : Finite d) (hpos : 0 < step)
    (hstep : Finite step → |toReal d| / 2 ^ 23 < toReal step) : d < d + step := by
  by_cases hfin : Finite step
  · refine (hd.add hfin).lt hd fun v hv => hd.isRounding.lt_of_add (hstep hfin) ?_ hv
    have hself : step ≤ step := (isNumber_of_isDefined hfin.isDefined).le_self
    have hleast := (Within.of_pos hpos hself hfin).toReal_mem.1
    rwa [toReal_least] at hleast
  · refine lt_infinity hd ?_
    have hinfinite : parts step = .infinity .positive := by
      have hmagnitude := isMagnitude_iff.2 (Scalar.Ordered.le_of_lt hpos)
      unfold Finite at hfin
      cases hp : parts step with
      | notANumber => rw [hp] at hmagnitude; cases hmagnitude
      | infinity s => rw [hp] at hmagnitude; cases hmagnitude; rfl
      | zero | finite => rw [hp] at hfin; exact absurd rfl hfin
    rw [parts_add, hinfinite]
    unfold Finite at hd
    cases hp : parts d with
    | notANumber | infinity => rw [hp] at hd; cases hd
    | zero | finite => exact repack_infinity _

/-! ## Steps between bounds -/

theorem isDefined_of_add (h : IsDefined (parts (a + b))) : IsDefined (parts b) := by
  cases hb : parts b with
  | notANumber =>
    have hsum : add .binary32 (parts a) .notANumber = .notANumber := by cases parts a <;> rfl
    rw [parts_add, hb, hsum] at h
    exact h
  | _ => trivial

/-- Between bounds that are at most as large as a finite number all numbers are finite. -/
theorem finite_between (hgreatest : Finite high) (hlow : low ≤ d) (hhigh : d ≤ high)
    (hneg : -low ≤ high) : Finite low ∧ Finite d := by
  have hlowFinite : Finite low := by
    unfold Finite
    cases hp : parts low with
    | notANumber =>
      obtain ⟨hnumber, -⟩ := Scalar.Total.isNumber_of_le hlow
      exact absurd hp (parts_ne_of_le hnumber.le_self)
    | infinity s =>
      cases s with
      | negative =>
        have hparts : parts (-low) = repack (parts low).neg := rfl
        rw [hp] at hparts
        exact absurd (hparts.trans (repack_infinity _)) (parts_ne_infinity_of_ge hgreatest hneg)
      | positive =>
        exact absurd hp (parts_ne_infinity_of_ge hgreatest (Scalar.Ordered.le_trans hlow hhigh))
    | zero | finite => rfl
  exact ⟨hlowFinite, hlowFinite.of_le hgreatest hlow hhigh⟩

theorem abs_toReal_le (hgreatest : Finite high) (hlow : low ≤ d) (hhigh : d ≤ high)
    (hneg : -low ≤ high) : |toReal d| ≤ toReal high := by
  obtain ⟨hfin, hd⟩ := finite_between hgreatest hlow hhigh hneg
  obtain ⟨hnegFinite, hnegReal⟩ := toReal_neg hfin
  rw [le_iff_toReal hfin hd] at hlow
  rw [le_iff_toReal hd hgreatest] at hhigh
  rw [le_iff_toReal hnegFinite hgreatest, hnegReal] at hneg
  exact abs_le.2 ⟨by linarith, hhigh⟩

theorem parts_divisor : parts 8388608 = .finite .positive 8388608 0 (by decide) := rfl

/-- What is longer than a rounded 2²³rd of a number that is not negative is longer than a 2²³rd of
it. -/
theorem div_lt_of_lt (ha : Finite a) (h0 : 0 ≤ toReal a) (hlt : a / 8388608 < step) :
    0 < step ∧ (Finite step → toReal a / 2 ^ 23 < toReal step) := by
  have hdivisor : Finite 8388608 ∧ toReal 8388608 = 2 ^ 23 := by
    unfold Finite toReal
    rw [parts_divisor]
    refine ⟨rfl, ?_⟩
    rw [value_finite, signed]
    norm_num
  have hwithin : Within 0 largest a := .of_toReal finite_zero toReal_largest.1 ha
    ⟨toReal_zero.trans_le h0, (le_abs_self _).trans ha.abs_le_largest⟩
  have hquotient : Within 0 largest (a / 8388608) :=
    hwithin.div_finite (by decide +kernel) (by decide +kernel) (by decide +kernel)
      (by decide +kernel)
  refine ⟨Scalar.Ordered.lt_of_le_of_lt hquotient.2.1 hlt, fun hstep => ?_⟩
  rw [lt_iff_toReal hquotient.finite hstep] at hlt
  by_contra hle
  have hround := (ha.div hdivisor.1 (by rw [hdivisor.2]; positivity)).isRounding hquotient.finite
  rw [hdivisor.2] at hround
  exact absurd hlt (not_lt.2 (hstep.isRounding.le hround (not_lt.1 hle)))

/-- No step is longer than a 2²³rd of an infinite number. -/
theorem finite_of_not_le (hd : d < high) (hle : high ≤ a) (hstep : IsDefined (parts step))
    (h : ¬ step ≤ a / 8388608) : Finite a := by
  unfold Finite
  cases hp : parts a with
  | notANumber => exact absurd hp (parts_ne_of_le hle)
  | infinity s =>
    cases s with
    | negative =>
      have hdefined : IsDefined (parts d) :=
        isDefined_of_isNumber (Scalar.Total.isNumber_of_le (Scalar.Ordered.le_of_lt hd)).1
      have hbelow : high ≤ d := Scalar.Ordered.le_trans hle (infinity_le hdefined hp)
      exact absurd hd (Scalar.Total.not_lt_of_le hbelow)
    | positive =>
      refine absurd (le_infinity hstep ?_) h
      rw [parts_div, hp]
      rfl
  | zero | finite => rfl

/-- A step of more than a 2²³rd of the numbers between two bounds leads on from each of them, or to
what is not a number. -/
theorem lt_add_of_between (hlow : low ≤ d) (hhigh : d < high)
    (hstep : ¬ step ≤ Scalar.max high (-low) / 8388608) (hnumber : Scalar.IsNumber (d + step)) :
    d < d + step := by
  have hdefined : IsDefined (parts step) := isDefined_of_add (isDefined_of_isNumber hnumber)
  have hle : high ≤ Scalar.max high (-low) := Scalar.le_max_of_le
    (Scalar.Total.isNumber_of_le (Scalar.Ordered.le_of_lt hhigh)).2.le_self _
  have hneg : -low ≤ Scalar.max high (-low) := by
    refine Scalar.le_max_right (isNumber_of_isDefined (isDefined_neg ?_)) high
    exact isDefined_of_isNumber (Scalar.Total.isNumber_of_le hlow).1
  have hfin := finite_of_not_le hhigh hle hdefined hstep
  generalize Scalar.max high (-low) = greatest at hstep hle hneg hfin
  have hbelow : d ≤ greatest := Scalar.Ordered.le_trans (Scalar.Ordered.le_of_lt hhigh) hle
  have habs := abs_toReal_le hfin hlow hbelow hneg
  have hquotient : IsDefined (parts (greatest / 8388608)) := by
    rw [parts_div, parts_divisor]
    exact (hfin.isDefined.div_finite _ _ _ _).repack
  have hlt : greatest / 8388608 < step := by
    by_contra hnot
    exact hstep (Scalar.Total.le_of_not_lt (isNumber_of_isDefined hquotient)
      (isNumber_of_isDefined hdefined) hnot)
  obtain ⟨hpos, hreal⟩ := div_lt_of_lt hfin ((abs_nonneg _).trans habs) hlt
  refine lt_add (finite_between hfin hlow hbelow hneg).2 hpos fun hstepFinite => ?_
  exact (div_le_div_of_nonneg_right habs (by positivity)).trans_lt (hreal hstepFinite)

end Single

end Cityscape

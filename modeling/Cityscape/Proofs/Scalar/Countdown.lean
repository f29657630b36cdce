import Cityscape.Proofs.Scalar.Defined

/-!
# Counting down

Taking one off a number again and again leads down to -2²⁴, where the numbers are two apart and the
one is lost. From there on, and from 2²⁴ upwards, a number that is a multiple of four stands still:
one less is rounded back to it. So no countdown gets on for more than a limited number of steps, and
one that begins between these bounds does not stand still before the lower one.

## Main definitions

* `Scalar.countdown` — what is left of a number after some steps.

## Main statements

* `Single.sub_one_lt` — between -2²⁴ and 2²⁴ no step is lost.
* `Single.sub_one_eq` — a large multiple of four stands still.
* `Single.exists_countdown_fixed` — every countdown stands still before 2²⁶ steps are made.
-/

namespace Cityscape

namespace Scalar

variable {α : Type} [Scalar α]

/-- What is left of a number after one was taken off it `k` times. -/
def countdown (a : α) (k : ℕ) : α := (fun x : α => x - 1)^[k] a

theorem countdown_succ (a : α) (k : ℕ) : countdown a (k + 1) = countdown (a - 1) k :=
  Function.iterate_succ_apply _ k a

theorem countdown_sub_one (a : α) (k : ℕ) : countdown a k - 1 = countdown a (k + 1) :=
  (Function.iterate_succ_apply' (fun x : α => x - 1) k a).symm

theorem countdown_add (a : α) (j k : ℕ) : countdown a (j + k) = countdown (countdown a j) k := by
  rw [Nat.add_comm]
  exact Function.iterate_add_apply _ k j a

/-- A number that stands still stays where it is. -/
theorem countdown_fixed {a : α} (h : a - 1 = a) (k : ℕ) : countdown a k = a :=
  Function.iterate_fixed h k

end Scalar

namespace Single

open Float.Model (UnpackedFloat)
open Float.Model.UnpackedFloat Scalar

variable {a b : Float32} {x : ℝ} {m n e : ℤ}

/-! ## Numbers with the same value -/

/-- Results that are the same real number, and not zero, are the same. -/
theorem Canonical.eq_of_value {f g : UnpackedFloat} (hf : Canonical f) (hg : Canonical g)
    (h : value f = value g) (h0 : value f ≠ 0) : f = g := by
  obtain ⟨r, hr⟩ := hf.exists_rank
  obtain ⟨s, hs⟩ := hg.exists_rank
  have hrank : r = s := by
    obtain hlt | heq | hlt := lt_trichotomy r s
    · exact absurd h (value_lt_of_rank hf hg hr hs hlt).ne
    · exact heq
    · exact absurd h (value_lt_of_rank hg hf hs hr hlt).ne'
  subst hrank
  obtain rfl | ⟨sf, sg, rfl, rfl⟩ := eq_of_rank hr hs
  · rfl
  · exact absurd rfl h0

/-- Only one number has given parts. -/
theorem parts_injective : Function.Injective parts := by
  rintro ⟨⟨u, hu⟩⟩ ⟨⟨w, hw⟩⟩ h
  have hbits : u.toBitVec = w.toBitVec := by
    rw [← pack_unpack hu, ← pack_unpack hw]
    exact congrArg (pack .binary32) h
  cases UInt32.toBitVec_inj.1 hbits
  rfl

/-- Equal numbers are the same, or both are zeros. -/
theorem eq_of_beq (h : (a == b) = true) :
    a = b ∨ ∃ s t, parts a = .zero s ∧ parts b = .zero t := by
  obtain ⟨r, ha, hb⟩ := beq_iff_rank.1 h
  exact (eq_of_rank ha hb).imp_left (parts_injective ·)

/-- Only one finite number has a given value, unless it is zero. -/
theorem Finite.eq_of_toReal (ha : Finite a) (hb : Finite b) (h : toReal a = toReal b)
    (h0 : toReal a ≠ 0) : a = b :=
  parts_injective (ha.canonical.eq_of_value hb.canonical h h0)

/-! ## One step -/

theorem isRounding_sub_one (ha : Finite a) : IsRounding (toReal a - 1) (toReal (a - 1)) := by
  have h := (ha.sub toReal_one.1).isRounding ha.sub_one
  rwa [toReal_one.2] at h

theorem toReal_sub_one_le (ha : Finite a) : toReal (a - 1) ≤ toReal a :=
  (isRounding_sub_one ha).le ha.isRounding (sub_le_self _ zero_le_one)

/-- Whole numbers up to 2²⁴ are not rounded. -/
theorem isRounding_whole (hn : |n| ≤ 2 ^ 24) : IsRounding n n := by
  obtain hlt | heq := hn.lt_or_eq
  · simpa using IsRounding.of_digits (e := 0) hlt (by norm_num)
  · rw [abs_eq (by norm_num)] at heq
    have hhalf : |n / 2| < 2 ^ 24 := by
      rw [abs_lt]
      omega
    have hwhole : ((n / 2 : ℤ) : ℝ) * 2 ^ (1 : ℤ) = n := by
      rw [zpow_one]
      exact_mod_cast (by omega : n / 2 * 2 = n)
    have h := IsRounding.of_digits (e := 1) hhalf (by norm_num)
    rwa [hwhole] at h

/-- What is not above a whole number is not above the one before after a step. -/
theorem toReal_sub_one_le_whole (ha : Finite a) (hn : |n - 1| ≤ 2 ^ 24) (h : toReal a ≤ n) :
    toReal (a - 1) ≤ n - 1 := by
  have hwhole := isRounding_whole hn
  push_cast at hwhole
  exact (isRounding_sub_one ha).le hwhole (sub_le_sub_right h 1)

/-- Between -2²⁴ and 2²⁴ no step is lost. -/
theorem sub_one_lt (ha : Finite a) (hlow : -2 ^ 24 < toReal a) (hhigh : toReal a ≤ 2 ^ 24) :
    toReal (a - 1) < toReal a := by
  have hceil : ⌈toReal a⌉ ≤ 2 ^ 24 := Int.ceil_le.2 (by exact_mod_cast hhigh)
  have hfloor : -2 ^ 24 < ⌈toReal a⌉ := Int.lt_ceil.2 (by exact_mod_cast hlow)
  have hstep := toReal_sub_one_le_whole (n := ⌈toReal a⌉) ha (by rw [abs_le]; omega)
    (Int.le_ceil _)
  have hlt := Int.ceil_lt_add_one (toReal a)
  linarith

/-! ## Numbers that stand still -/

theorem lastPlace_eq (he : -149 ≤ e) (hlow : 2 ^ 23 * 2 ^ e ≤ |x|)
    (hhigh : |x| < 2 ^ 24 * 2 ^ e) : lastPlace x = e := by
  have hpos : 0 < |x| := lt_of_lt_of_le (by positivity) hlow
  have hle : e + 23 ≤ Int.log 2 |x| := by
    rw [← Int.zpow_le_iff_le_log (b := 2) one_lt_two hpos, Nat.cast_ofNat, zpow_add₀ two_ne_zero]
    linarith
  have hlt : Int.log 2 |x| < e + 24 := by
    rw [← Int.lt_zpow_iff_log_lt (b := 2) one_lt_two hpos, Nat.cast_ofNat, zpow_add₀ two_ne_zero]
    linarith
  unfold lastPlace
  omega

theorem two_le_two_zpow (he : 1 ≤ e) : (2 : ℝ) ≤ 2 ^ e := by
  simpa using zpow_le_zpow_right₀ one_le_two he

/-- One less than a large number is written with the last place of the number. -/
structure Large (x : ℝ) (n e : ℤ) : Prop where
  eq : x = n * 2 ^ e
  one_le : 1 ≤ e
  low : 2 ^ 23 * 2 ^ e ≤ |x - 1|
  high : |x - 1| < 2 ^ 24 * 2 ^ e

/-- One less than a large number is rounded back to it, unless the numbers are two apart and it is
an odd multiple of two. -/
theorem Large.isRounding (h : Large x n e) (heven : e = 1 → Even n) : IsRounding (x - 1) x := by
  have hplace := lastPlace_eq (by linarith [h.one_le]) h.low h.high
  have htwo := two_le_two_zpow h.one_le
  have hdiff : |(x - 1) / 2 ^ e - n| = 1 / 2 ^ e := by
    have hvalue : (x - 1) / 2 ^ e - n = -(1 / 2 ^ e) := by
      rw [h.eq]
      field_simp
      ring
    rw [hvalue, abs_neg, abs_of_pos (by positivity)]
  refine ⟨n, ?_, by rw [hplace, h.eq]⟩
  rw [hplace]
  refine ⟨?_, fun hhalf => heven ?_⟩
  · rw [hdiff]
    gcongr
  · rw [hdiff] at hhalf
    have hpow : (2 : ℝ) ^ e = 2 ^ (1 : ℤ) := by
      rw [zpow_one]
      field_simp at hhalf
      linarith
    exact zpow_right_injective₀ two_pos (by norm_num) hpow

/-- One less than an odd multiple of two, where the numbers are two apart, is rounded down. -/
theorem Large.isRounding_odd (h : Large x n 1) (hodd : Odd n) : IsRounding (x - 1) (x - 2) := by
  have hplace := lastPlace_eq (by norm_num) h.low h.high
  have hvalue : (x - 1) / 2 ^ (1 : ℤ) - (n - 1 : ℤ) = 1 / 2 := by
    rw [h.eq, zpow_one]
    push_cast
    ring
  refine ⟨n - 1, ?_, ?_⟩
  · rw [hplace]
    refine ⟨?_, fun _ => hodd.sub_odd odd_one⟩
    rw [hvalue, abs_of_pos (by norm_num)]
  · rw [hplace, h.eq, zpow_one]
    push_cast
    ring

/-- The numbers from 2²⁴ on have all digits, and are at least two apart. -/
theorem exists_digits (ha : Finite a) (h : 2 ^ 24 ≤ |toReal a|) :
    ∃ (s : Sign) (m : ℕ) (e : ℤ), toReal a = signed s (m * 2 ^ e) ∧ 2 ^ 23 ≤ m ∧ m < 2 ^ 24 ∧
      1 ≤ e := by
  have hcanonical := ha.canonical
  unfold toReal at h ⊢
  cases hp : parts a with
  | notANumber | infinity => rw [hp] at hcanonical; cases hcanonical
  | zero s => rw [hp, value_zero] at h; norm_num at h
  | finite s m e hm =>
    rw [hp] at hcanonical h
    rw [value_finite, abs_signed s (by positivity)] at h
    obtain ⟨hlt, -, hnormal⟩ := hcanonical
    have hexponent : 1 ≤ e := by
      by_contra hle
      have hsmall : (2 : ℝ) ^ e ≤ 1 := zpow_le_one_of_nonpos₀ one_le_two (by omega)
      have hm' : (m : ℝ) < 2 ^ 24 := by exact_mod_cast hlt
      have hle : (m : ℝ) * 2 ^ e ≤ m := mul_le_of_le_one_right (Nat.cast_nonneg m) hsmall
      linarith
    exact ⟨s, m, e, value_finite s m e hm, hnormal (by omega), hlt, hexponent⟩

theorem large_neg {m : ℕ} (hlow : 2 ^ 23 ≤ m) (hhigh : m < 2 ^ 24) (he : 1 ≤ e) :
    Large (-(m * 2 ^ e)) (-m) e := by
  have htwo := two_le_two_zpow he
  have hlow' : (2 : ℝ) ^ 23 ≤ m := by exact_mod_cast hlow
  have hhigh' : (m : ℝ) + 1 ≤ 2 ^ 24 := by exact_mod_cast hhigh
  have hbelow : (2 : ℝ) ^ 23 * 2 ^ e ≤ m * 2 ^ e := by gcongr
  have habove : ((m : ℝ) + 1) * 2 ^ e ≤ 2 ^ 24 * 2 ^ e := by gcongr
  have habs : |-(m * 2 ^ e : ℝ) - 1| = m * 2 ^ e + 1 := by
    rw [← neg_add', abs_neg, abs_of_pos (by positivity)]
  exact ⟨by push_cast; ring, he, by linarith, by linarith⟩

theorem large_pos {m : ℕ} (hlow : 2 ^ 23 < m) (hhigh : m < 2 ^ 24) (he : 1 ≤ e) :
    Large (m * 2 ^ e) m e := by
  have htwo := two_le_two_zpow he
  have hlow' : (2 : ℝ) ^ 23 + 1 ≤ m := by exact_mod_cast hlow
  have hhigh' : (m : ℝ) ≤ 2 ^ 24 := by exact_mod_cast hhigh.le
  have hbelow : ((2 : ℝ) ^ 23 + 1) * 2 ^ e ≤ m * 2 ^ e := by gcongr
  have habove : (m : ℝ) * 2 ^ e ≤ 2 ^ 24 * 2 ^ e := by gcongr
  have habs : |(m * 2 ^ e : ℝ) - 1| = m * 2 ^ e - 1 := abs_of_pos (by linarith)
  exact ⟨by rw [Int.cast_natCast], he, by linarith, by linarith⟩

/-- One less than a power of two has one digit more behind the point. -/
theorem large_two_pow (he : 1 ≤ e) : Large (2 ^ 23 * 2 ^ (e + 1)) (2 ^ 24) e := by
  have htwo := two_le_two_zpow he
  have hdouble : (2 : ℝ) ^ (e + 1) = 2 * 2 ^ e := by rw [zpow_add₀ two_ne_zero]; ring
  have habs : |(2 ^ 23 * 2 ^ (e + 1) : ℝ) - 1| = 2 ^ 23 * 2 ^ (e + 1) - 1 :=
    abs_of_pos (by linarith)
  exact ⟨by rw [hdouble]; push_cast; ring, he, by linarith, by linarith⟩

/-- Numbers from -2²⁴ downwards, and those above 2²⁴, are large. -/
theorem exists_large (ha : Finite a) (h : toReal a ≤ -2 ^ 24 ∨ 2 ^ 24 < toReal a) :
    ∃ n e, Large (toReal a) n e := by
  have habs : 2 ^ 24 ≤ |toReal a| := by
    rcases h with h | h
    · exact le_abs.2 (.inr (by linarith))
    · exact le_abs.2 (.inl h.le)
  obtain ⟨s, m, e, hvalue, hbits, hlt, hexponent⟩ := exists_digits ha habs
  rw [hvalue] at h ⊢
  cases s with
  | negative => exact ⟨-m, e, large_neg hbits hlt hexponent⟩
  | positive =>
    obtain rfl | hgt := hbits.eq_or_lt
    · obtain ⟨d, rfl⟩ : ∃ d, e = d + 1 := ⟨e - 1, by ring⟩
      rw [signed, Nat.cast_pow, Nat.cast_ofNat] at h ⊢
      have hpos : (0 : ℝ) < 2 ^ 23 * 2 ^ (d + 1) := by positivity
      have hd : 1 ≤ d := by
        by_contra hle
        have hsmall : (2 : ℝ) ^ (d + 1) ≤ 2 ^ (1 : ℤ) := zpow_le_zpow_right₀ one_le_two (by omega)
        rw [zpow_one] at hsmall
        rcases h with h | h <;> linarith
      exact ⟨2 ^ 24, d, large_two_pow hd⟩
    · exact ⟨m, e, large_pos hgt hlt hexponent⟩

theorem Large.sub_one_eq (ha : Finite a) (h : Large (toReal a) n e) (heven : e = 1 → Even n) :
    a - 1 = a := by
  have hreal : toReal (a - 1) = toReal a := (isRounding_sub_one ha).eq (h.isRounding heven)
  refine ha.sub_one.eq_of_toReal ha hreal fun hzero => ?_
  have htwo := two_le_two_zpow h.one_le
  have hlow := h.low
  rw [← hreal, hzero, zero_sub, abs_neg, abs_one] at hlow
  linarith

/-- A large multiple of four stands still. -/
theorem sub_one_eq (ha : Finite a) (h : toReal a ≤ -2 ^ 24 ∨ 2 ^ 24 < toReal a)
    (hfour : toReal a = 4 * n) : a - 1 = a := by
  obtain ⟨m, e, hlarge⟩ := exists_large ha h
  refine hlarge.sub_one_eq ha ?_
  rintro rfl
  have hm : (m : ℝ) * 2 = 4 * n := by rw [← hfour, hlarge.eq, zpow_one]
  have hm' : m * 2 = 4 * n := by exact_mod_cast hm
  exact ⟨n, by omega⟩

/-- A large number that does not stand still becomes a multiple of four. -/
theorem sub_one_eq_or (ha : Finite a) (h : toReal a ≤ -2 ^ 24 ∨ 2 ^ 24 < toReal a) :
    a - 1 = a ∨ ∃ n : ℤ, toReal (a - 1) = 4 * n := by
  obtain ⟨m, e, hlarge⟩ := exists_large ha h
  by_cases hodd : e = 1 ∧ ¬ Even m
  · obtain ⟨rfl, hodd⟩ := hodd
    obtain ⟨k, rfl⟩ := Int.not_even_iff_odd.1 hodd
    refine .inr ⟨k, ?_⟩
    rw [(isRounding_sub_one ha).eq (hlarge.isRounding_odd ⟨k, rfl⟩), hlarge.eq, zpow_one]
    push_cast
    ring
  · exact .inl (hlarge.sub_one_eq ha fun he => not_not.1 fun hm => hodd ⟨he, hm⟩)

/-! ## Countdowns -/

theorem finite_countdown (ha : Finite a) (k : ℕ) : Finite (countdown a k) := by
  induction k generalizing a with
  | zero => exact ha
  | succ k ih =>
    rw [countdown_succ]
    exact ih ha.sub_one

theorem toReal_countdown_le (ha : Finite a) (k : ℕ) : toReal (countdown a k) ≤ toReal a := by
  induction k generalizing a with
  | zero => exact le_rfl
  | succ k ih =>
    rw [countdown_succ]
    exact (ih ha.sub_one).trans (toReal_sub_one_le ha)

theorem countdown_le (ha : Finite a) (k : ℕ) : countdown a k ≤ a :=
  (le_iff_toReal (finite_countdown ha k) ha).2 (toReal_countdown_le ha k)

theorem toReal_sixteenMillion : Finite 16777216 ∧ toReal 16777216 = 2 ^ 24 := by
  have hparts : parts 16777216 = .finite .positive 8388608 1 (by decide) := rfl
  unfold Finite toReal
  rw [hparts]
  refine ⟨rfl, ?_⟩
  rw [value_finite, signed]
  norm_num

/-- A number of at most 2²⁴ stands still only from -2²⁴ downwards. -/
theorem le_of_sub_one_eq (ha : Finite a) (hle : a ≤ 16777216) (hfixed : a - 1 = a) :
    a ≤ -16777216 := by
  obtain ⟨hbound, hreal⟩ := toReal_sixteenMillion
  obtain ⟨hlow, hlowReal⟩ := toReal_neg hbound
  rw [le_iff_toReal ha hbound, hreal] at hle
  rw [le_iff_toReal ha hlow, hlowReal, hreal]
  by_contra hlt
  have hsmaller := sub_one_lt ha (not_le.1 hlt) hle
  rw [hfixed] at hsmaller
  exact hsmaller.false

/-- A countdown from at most 2²⁴ keeps up with one in which no step is rounded. -/
theorem toReal_countdown_le_sub (ha : Finite a) (hle : toReal a ≤ 2 ^ 24) {k : ℕ}
    (hk : k ≤ 2 ^ 25) : toReal (countdown a k) ≤ 2 ^ 24 - k := by
  induction k with
  | zero =>
    rw [Nat.cast_zero, sub_zero]
    exact hle
  | succ k ih =>
    have hprevious := ih (by omega)
    have hstep := toReal_sub_one_le_whole (n := 2 ^ 24 - k) (finite_countdown ha k)
      (by rw [abs_le]; omega) (by push_cast; linarith)
    rw [countdown_sub_one] at hstep
    push_cast at hstep ⊢
    linarith

/-- A countdown from at most 2²⁴ stands still when it has come down to -2²⁴, or one step later. -/
theorem exists_countdown_fixed_of_le (ha : Finite a) (hle : toReal a ≤ 2 ^ 24) :
    ∃ k ≤ 2 ^ 25 + 1, countdown a k - 1 = countdown a k := by
  obtain ⟨k, hk⟩ : ∃ k : ℕ, k = 2 ^ 25 := ⟨_, rfl⟩
  have hfinite := finite_countdown ha k
  have hdown : toReal (countdown a k) ≤ -2 ^ 24 := by
    have hsub := toReal_countdown_le_sub ha hle hk.le
    have hcast : (k : ℝ) = 2 ^ 25 := by exact_mod_cast hk
    linarith
  obtain hfixed | ⟨n, hfour⟩ := sub_one_eq_or hfinite (.inl hdown)
  · exact ⟨k, by omega, hfixed⟩
  · have hfixed := sub_one_eq hfinite.sub_one (.inl ((toReal_sub_one_le hfinite).trans hdown)) hfour
    rw [countdown_sub_one] at hfixed
    exact ⟨k + 1, by omega, hfixed⟩

/-- Every countdown stands still before 2²⁶ steps are made. -/
theorem exists_countdown_fixed (ha : Finite a) :
    ∃ k < 2 ^ 26, countdown a k - 1 = countdown a k := by
  rcases le_or_gt (toReal a) (2 ^ 24) with hle | hlt
  · obtain ⟨k, hk, hfixed⟩ := exists_countdown_fixed_of_le ha hle
    exact ⟨k, by omega, hfixed⟩
  obtain hfixed | ⟨n, hfour⟩ := sub_one_eq_or ha (.inr hlt)
  · exact ⟨0, by norm_num, hfixed⟩
  rcases le_or_gt (toReal (a - 1)) (2 ^ 24) with hle | hlt
  · obtain ⟨k, hk, hfixed⟩ := exists_countdown_fixed_of_le ha.sub_one hle
    rw [← countdown_succ] at hfixed
    exact ⟨k + 1, by omega, hfixed⟩
  · exact ⟨1, by norm_num, sub_one_eq ha.sub_one (.inr hlt) hfour⟩

end Single

end Cityscape

import Mathlib
import Cityscape.Proofs.Scalar.Counts
import Cityscape.Proofs.Scalar.Countdown
import Cityscape.Proofs.Scalar.RealNumbers
import Cityscape.Proofs.Scalar.Sums

/-!
# Nearest whole numbers

Rounding to a whole number is exact: a finite number of single precision is rounded to the whole
number that is nearest to it on the real line, and a half is rounded away from zero. So a coordinate
stands for the cell that is nearest to it, as long as single precision tells the number of that cell
from the number of cells.

## Main definitions

* `Single.NearestTo` — the count that is nearest to a number.
* `Single.Below` — a count that is told from a larger one.

## Main statements

* `Single.toReal_round_eq` — rounding is exact.
* `Single.below_of_lt` — counts up to 2²⁴ are told from each other.
* `Single.stands_iff` — what a coordinate stands for.
* `Single.nearestTo_add_iff` — what a coordinate at an offset stands for.
-/

namespace Cityscape

/-! ## Rounding on the real line -/

theorem round_real_of_nonneg {r : ℝ} (h : 0 ≤ r) : Scalar.round r = ⌊r + 1 / 2⌋₊ := by
  have hround : Scalar.round r = (round r : ℝ) := if_neg (not_lt.2 h)
  rw [hround, round_eq, ← Int.natCast_floor_eq_floor (by positivity), Int.cast_natCast]

theorem round_real_neg (r : ℝ) : Scalar.round (-r) = -Scalar.round r := by
  change (if -r < 0 then -(round (- -r) : ℝ) else round (-r)) =
    -(if r < 0 then -(round (-r) : ℝ) else round r)
  obtain hlt | rfl | hgt := lt_trichotomy r 0
  · rw [if_neg (by linarith), if_pos hlt, neg_neg]
  · simp
  · rw [if_pos (by linarith), if_neg (by linarith), neg_neg]

theorem round_real_natCast (n : ℕ) : Scalar.round (n : ℝ) = n := by
  have hfloor : ⌊(n : ℝ) + 1 / 2⌋₊ = n := by
    rw [Nat.floor_eq_iff (by positivity)]
    constructor <;> linarith
  rw [round_real_of_nonneg n.cast_nonneg, hfloor]

theorem exists_round_real (r : ℝ) : ∃ z : ℤ, Scalar.round r = z := by
  obtain h | h := le_or_gt 0 r
  · exact ⟨⌊r + 1 / 2⌋₊, round_real_of_nonneg h⟩
  · refine ⟨-⌊-r + 1 / 2⌋₊, ?_⟩
    rw [← neg_neg r, round_real_neg, round_real_of_nonneg (by linarith)]
    push_cast
    rw [neg_neg]

theorem round_real_mono {r s : ℝ} (h : r ≤ s) : Scalar.round r ≤ Scalar.round s := by
  wlog hs : 0 ≤ s generalizing r s
  · have := this (neg_le_neg h) (by linarith)
    rw [round_real_neg, round_real_neg] at this
    linarith
  rw [round_real_of_nonneg hs]
  obtain hr | hr := le_or_gt 0 r
  · rw [round_real_of_nonneg hr]
    exact_mod_cast Nat.floor_mono (by linarith)
  · rw [← neg_neg r, round_real_neg, round_real_of_nonneg (by linarith)]
    exact (neg_nonpos.2 (Nat.cast_nonneg _)).trans (Nat.cast_nonneg _)

theorem round_real_intCast (k : ℤ) : Scalar.round (k : ℝ) = k := by
  obtain ⟨n, rfl | rfl⟩ := k.eq_nat_or_neg
  · exact round_real_natCast n
  · rw [Int.cast_neg, round_real_neg, Int.cast_natCast, round_real_natCast]

/-- A number is rounded to a whole number that it is less than a half away from. -/
theorem round_real_of_abs_lt {r : ℝ} {k : ℤ} (h : |r - k| < 1 / 2) : Scalar.round r = k := by
  wlog hr : 0 ≤ r generalizing r k
  · have hneg := this (r := -r) (k := -k) (by rwa [Int.cast_neg, neg_sub_neg, abs_sub_comm])
      (by linarith)
    rw [round_real_neg, Int.cast_neg] at hneg
    exact neg_inj.1 hneg
  rw [abs_lt] at h
  have hk : -1 < k := by
    have : ((-1 : ℤ) : ℝ) < k := by push_cast; linarith
    exact_mod_cast this
  lift k to ℕ using by omega
  have hfloor : ⌊r + 1 / 2⌋₊ = k := by
    rw [Nat.floor_eq_iff (by positivity)]
    push_cast at h
    constructor <;> linarith
  rw [round_real_of_nonneg hr, hfloor, Int.cast_natCast]

theorem whole_real_intCast (k : ℤ) : Scalar.whole (k : ℝ) = k.toNat :=
  congrArg Int.toNat (Int.floor_intCast k)

namespace Single

variable {a b c : Float32} {n x : ℕ} {m k : ℤ}

/-! ## Rounding in single precision -/

/-- A finite number is rounded to the nearest whole number, and a half away from zero. -/
theorem toReal_round_eq (ha : Finite a) :
    Finite (round a) ∧ toReal (round a) = Scalar.round (toReal a) := by
  obtain hlarge | hsmall := le_or_gt (2 ^ 23) |toReal a|
  · -- A large number is whole.
    rw [round_of_le ha hlarge]
    refine ⟨ha, ?_⟩
    obtain h0 | hneg := le_or_gt 0 (toReal a)
    · rw [abs_of_nonneg h0] at hlarge
      rw [← floor_of_le ha hlarge, round_real_natCast]
    · rw [abs_of_neg hneg] at hlarge
      obtain ⟨hopposite, hreal⟩ := toReal_neg ha
      have hwhole := floor_of_le hopposite (hreal ▸ hlarge)
      rw [hreal] at hwhole
      rw [← neg_neg (toReal a), round_real_neg, ← hwhole, round_real_natCast]
  · rw [abs_lt] at hsmall
    obtain h0 | hneg := le_or_gt 0 (toReal a)
    · rw [round_real_of_nonneg h0]
      exact toReal_round ha h0 hsmall.2
    · have hround : Scalar.round (toReal a) = -⌊-toReal a + 1 / 2⌋₊ := by
        rw [← round_real_of_nonneg (by linarith), round_real_neg, neg_neg]
      rw [hround]
      exact toReal_round_neg ha hneg hsmall.1

/-! ## Counts that are told from each other -/

/-- The number is finite, and the count is nearest to it; a half goes away from zero. -/
def NearestTo (c : Float32) (x : ℕ) : Prop := Finite c ∧ Scalar.round (toReal c) = x

/-- Single precision tells a count from a larger one. -/
def Below (x n : ℕ) : Prop := (Scalar.ofNat x : Float32) < Scalar.ofNat n

theorem Below.lt (h : Below x n) : x < n := by
  by_contra hle
  exact Scalar.Total.not_lt_of_le
    ((rounds_ofNat n).le (rounds_ofNat x) (by exact_mod_cast not_lt.1 hle)) h

/-- The number of a count is one of single precision if some number of single precision is. -/
theorem toReal_ofNat_of_eq (hc : Finite c) (hx : toReal c = x) :
    Finite (Float32.ofNat x) ∧ toReal (Float32.ofNat x) = x := by
  refine (rounds_ofNat x).finite ?_ ?_
  · rw [← hx]
    exact hc.isRounding
  · rw [← hx]
    exact hc.abs_lt

/-- Counts up to 2²⁴ are told from each other. -/
theorem below_of_lt (hn : n ≤ 16777216) (h : x < n) : Below x n := by
  have hnumber {k : ℕ} (hk : k ≤ 16777216) :
      Finite (Float32.ofNat k) ∧ toReal (Float32.ofNat k) = k := by
    obtain hlt | rfl := hk.lt_or_eq
    · exact toReal_ofNat (by omega)
    · refine toReal_ofNat_of_eq toReal_sixteenMillion.1 ?_
      rw [toReal_sixteenMillion.2]
      norm_num
  obtain ⟨hx, hxReal⟩ := hnumber (h.le.trans hn)
  obtain ⟨hn, hnReal⟩ := hnumber hn
  change Float32.ofNat x < Float32.ofNat n
  rw [lt_iff_toReal hx hn, hxReal, hnReal]
  exact_mod_cast h

/-- A coordinate stands for the column that is nearest to it, if there is one that single precision
tells from the number of columns. -/
theorem stands_iff (hc : Scalar.IsNumber c) (hn : n ≤ wordLimit) :
    (¬ round c < 0 ∧ ¬ (Scalar.ofNat n : Float32) ≤ round c) ∧ Scalar.whole (round c) = x ↔
      NearestTo c x ∧ Below x n := by
  by_cases hfinite : Finite c
  · obtain ⟨hr, hreal⟩ := toReal_round_eq hfinite
    have hlow : ¬ round c < 0 ↔ 0 ≤ toReal (round c) := by
      rw [lt_iff_toReal hr finite_zero, toReal_zero, not_lt]
    have hwhole (m : ℕ) (hm : toReal (round c) = m) (hlt : m < n) :
        Scalar.whole (round c) = m := by
      have hfew : toReal (round c) < 2 ^ 64 := by
        rw [hm]
        exact_mod_cast (by unfold wordLimit at hn; omega : m < 2 ^ 64)
      change (round c).toUInt64.toNat = m
      rw [toNat_toUInt64 hr (hm ▸ m.cast_nonneg) hfew, hm, Nat.floor_natCast]
    -- The rounded coordinate and the number of its count are the same real number.
    have hbelow (m : ℕ) (hm : toReal (round c) = m) :
        ¬ (Scalar.ofNat n : Float32) ≤ round c ↔ Below m n := by
      obtain ⟨hcount, hcountReal⟩ := toReal_ofNat_of_eq hr hm
      have hbeq : (round c == Float32.ofNat m) = true := by
        rw [beq_iff_toReal hr hcount, hm, hcountReal]
      rw [Scalar.Ordered.le_congr hbeq]
      have hnumber := isNumber_of_isDefined (rounds_ofNat n).isDefined
      exact ⟨fun hle => by_contra fun hlt => hle
          (Scalar.Total.le_of_not_lt (isNumber_of_isDefined hcount.isDefined) hnumber hlt),
        fun hlt hle => Scalar.Total.not_lt_of_le hle hlt⟩
    unfold NearestTo
    rw [hlow, ← hreal]
    constructor
    · rintro ⟨⟨h0, hlt⟩, rfl⟩
      obtain ⟨z, hz⟩ := exists_round_real (toReal c)
      rw [← hreal] at hz
      obtain ⟨m, rfl⟩ := Int.eq_ofNat_of_zero_le (by exact_mod_cast hz ▸ h0 : 0 ≤ z)
      have hm := (hbelow m hz).1 hlt
      rw [hwhole m hz hm.lt]
      exact ⟨⟨hfinite, hz⟩, hm⟩
    · rintro ⟨⟨-, hx⟩, hlt⟩
      exact ⟨⟨hx ▸ x.cast_nonneg, (hbelow x hx).2 hlt⟩, hwhole x hx hlt.lt⟩
  · -- An infinite coordinate lies outside.
    rw [round_of_not_finite hfinite]
    refine iff_of_false ?_ fun h => hfinite h.1.1
    rintro ⟨⟨hlow, hhigh⟩, -⟩
    obtain ⟨s, hs⟩ := exists_infinity (isDefined_of_isNumber hc) hfinite
    cases s with
    | negative => exact hlow (by rw [lt_iff, hs]; rfl)
    | positive => exact hhigh (le_infinity (rounds_ofNat n).isDefined hs)

/-! ## Sums of whole numbers -/

/-- Whole numbers up to 2²⁴ are numbers of single precision. -/
theorem isRounding_intCast (h : |k| ≤ 2 ^ 24) : IsRounding k k := by
  obtain hlt | heq := h.lt_or_eq
  · simpa using IsRounding.of_digits hlt (show (-149 : ℤ) ≤ 0 by norm_num)
  · have hpos : IsRounding (2 ^ 24) (2 ^ 24) := by
      have := toReal_sixteenMillion.1.isRounding
      rwa [toReal_sixteenMillion.2] at this
    obtain rfl | rfl := (abs_eq (by norm_num)).1 heq
    · exact_mod_cast hpos
    · exact_mod_cast hpos.neg

/-- Which column an offset leads to is not blurred by rounding as long as there are no more than 2²⁴
columns: what leads out of them is not rounded back into them. -/
theorem nearestTo_add_iff (ha : Finite a) (hm : toReal a = m) (h0 : 0 ≤ m) (hlt : m < 2 ^ 24)
    (hb : Finite b) (hk : IsRounding k (toReal b)) (hn : n ≤ 16777216) :
    NearestTo (a + b) x ∧ x < n ↔ m + k = x ∧ x < n := by
  have hsum := ha.add hb
  rw [hm] at hsum
  have hexact (hlow : 0 ≤ m + k) (hhigh : m + k < 2 ^ 24) :
      Finite (a + b) ∧ toReal (a + b) = (m + k : ℤ) := by
    have hkReal : toReal b = k := hk.eq (isRounding_intCast (by rw [abs_le]; omega))
    rw [hkReal, ← Int.cast_add] at hsum
    have hsmall : |m + k| < 2 ^ 24 := by rw [abs_lt]; omega
    refine hsum.finite (isRounding_intCast hsmall.le) ?_
    calc |((m + k : ℤ) : ℝ)| < 2 ^ 24 := by exact_mod_cast hsmall
      _ < 2 ^ 128 := by norm_num
  refine and_congr_left fun hx => ⟨fun h => ?_, fun h => ?_⟩
  · have hv := hsum.isRounding h.1
    have hround : Scalar.round (toReal (a + b)) = x := h.2
    obtain hneg | hlow := lt_or_ge (m + k) 0
    · -- The sum is not above minus one, neither before nor after it is rounded.
      have hk' : toReal b ≤ (-1 - m : ℤ) :=
        hk.le (isRounding_intCast (by rw [abs_le]; omega)) (by exact_mod_cast (by omega))
      have hv' : toReal (a + b) ≤ (-1 : ℤ) := by
        refine hv.le (isRounding_intCast (by norm_num)) ?_
        push_cast at hk' ⊢
        linarith
      have := round_real_mono hv'
      rw [hround, round_real_intCast] at this
      have : (x : ℤ) ≤ -1 := by exact_mod_cast this
      omega
    obtain hmany | hfew := le_or_gt (2 ^ 24) (m + k)
    · have hk' : (2 ^ 24 - m : ℤ) ≤ toReal b :=
        (isRounding_intCast (by rw [abs_le]; omega)).le hk (by exact_mod_cast (by omega))
      have hv' : ((2 ^ 24 : ℤ) : ℝ) ≤ toReal (a + b) := by
        refine (isRounding_intCast (by norm_num)).le hv ?_
        push_cast at hk' ⊢
        linarith
      have := round_real_mono hv'
      rw [hround, round_real_intCast] at this
      have : (2 ^ 24 : ℤ) ≤ x := by exact_mod_cast this
      omega
    · rw [(hexact hlow hfew).2, round_real_intCast] at hround
      exact_mod_cast hround
  · obtain ⟨hfinite, hreal⟩ := hexact (by omega) (by omega)
    exact ⟨hfinite, by rw [hreal, round_real_intCast, h]; rfl⟩

end Single

end Cityscape

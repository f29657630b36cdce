import Cityscape.Proofs.Scalar.Defined

/-!
# Sums keep the order

What is rounded and stored is ordered as it was before, also where it is too large and becomes
infinite. So the greater of two numbers has the greater sum with a third one, and sums that are
added up from the left stay ordered however they round.

## Main statements

* `Single.Rounds.le` — storing keeps the order.
* `Single.add_le_add_right` — the greater number has the greater sum.
* `Single.sub_le_sub_left` — the greater number leaves the smaller difference.
* `Single.foldl_add_le` — sums that are added up from a greater number.
-/

namespace Cityscape.Single

open Float.Model (UnpackedFloat)
open Float.Model.UnpackedFloat

variable {x y : ℝ} {a b c : Float32} {f : UnpackedFloat} {l : List Float32}

/-! ## Storing -/

/-- A positive result that is too large is stored as infinity. -/
theorem repack_of_le (hf : Canonical f) (h : 2 ^ 128 ≤ value f) :
    repack f = .infinity .positive := by
  have hpos : 0 < value f := lt_of_lt_of_le (by positivity) h
  have hmagnitude : IsMagnitude f := by
    cases f with
    | notANumber | infinity => cases hf
    | zero s => trivial
    | finite s m e hm =>
      cases s with
      | positive => rfl
      | negative => exact absurd hpos (not_lt.2 (neg_nonpos.2 (by positivity)))
  have hstored := hmagnitude.repack
  have hlarge : ¬ (repack f).isFinite = true := fun hfin =>
    absurd (abs_lt_of_repack hf hfin) (not_lt.2 (h.trans (le_abs_self _)))
  cases hp : repack f with
  | notANumber => rw [hp] at hstored; cases hstored
  | infinity s => rw [hp] at hstored; cases hstored; rfl
  | zero | finite => rw [hp] at hlarge; exact absurd rfl hlarge

/-- A negative result that is too large is stored as negative infinity. -/
theorem repack_of_ge (hf : Canonical f) (h : value f ≤ -2 ^ 128) :
    repack f = .infinity .negative := by
  have hneg : (repack f).neg = .infinity .positive := by
    rw [← repack_neg]
    exact repack_of_le hf.neg (by rw [value_neg]; linarith)
  cases hp : repack f with
  | infinity s =>
    rw [hp] at hneg
    cases s with
    | negative => rfl
    | positive => cases hneg
  | notANumber | zero | finite => rw [hp] at hneg; cases hneg

/-- What is rounded and stored is ordered as the real numbers were. -/
theorem Rounds.le (hx : Rounds x a) (hy : Rounds y b) (hxy : x ≤ y) : a ≤ b := by
  obtain ⟨f, ⟨hf, hfx⟩, ha⟩ := id hx
  obtain ⟨g, ⟨hg, hgy⟩, hb⟩ := id hy
  have hvalue : value f ≤ value g := hfx.le hgy hxy
  by_cases hhigh : 2 ^ 128 ≤ value g
  · exact le_infinity hx.isDefined (hb.trans (repack_of_le hg hhigh))
  by_cases hlow : value f ≤ -2 ^ 128
  · exact infinity_le hy.isDefined (ha.trans (repack_of_ge hf hlow))
  rw [not_le] at hhigh hlow
  obtain ⟨haFinite, haReal⟩ := hx.finite hfx (abs_lt.2 ⟨hlow, hvalue.trans_lt hhigh⟩)
  obtain ⟨hbFinite, hbReal⟩ := hy.finite hgy (abs_lt.2 ⟨hlow.trans_le hvalue, hhigh⟩)
  rw [le_iff_toReal haFinite hbFinite, haReal, hbReal]
  exact hvalue

/-! ## Adding a finite number -/

/-- A number that is not finite is infinite. -/
theorem exists_infinity (ha : IsDefined (parts a)) (h : ¬ Finite a) :
    ∃ s, parts a = .infinity s := by
  unfold Finite at h
  cases hp : parts a with
  | notANumber => rw [hp] at ha; cases ha
  | infinity s => exact ⟨s, rfl⟩
  | zero | finite => rw [hp] at h; exact absurd rfl h

theorem parts_add_infinity {s : Sign} (ha : parts a = .infinity s) (hc : Finite c) :
    parts (a + c) = .infinity s := by
  rw [parts_add, ha]
  unfold Finite at hc
  cases hp : parts c with
  | notANumber | infinity => rw [hp] at hc; cases hc
  | zero | finite => exact repack_infinity s

theorem isDefined_add_finite (ha : IsDefined (parts a)) (hc : Finite c) :
    IsDefined (parts (a + c)) := by
  rw [parts_add]
  exact (ha.add_finite hc).repack

/-- Adding a zero to a number does not change it. -/
theorem add_null_beq (ha : IsDefined (parts a)) (hc : Null c) (hfin : Finite c) :
    (a + c == a) = true := by
  by_cases hfinite : Finite a
  · exact hfinite.add_null_beq hc hfin
  · obtain ⟨s, hs⟩ := exists_infinity ha hfinite
    rw [beq_eq, parts_add_infinity hs hfin, hs]
    cases s <;> rfl

/-- What equals zero is a zero. -/
theorem null_of_beq_zero (h : (c == 0) = true) : Null c ∧ Finite c := by
  have hzero : parts 0 = .zero .positive := rfl
  rw [beq_eq, hzero] at h
  unfold Null Finite
  cases hp : parts c with
  | zero s => exact ⟨trivial, rfl⟩
  | notANumber => rw [hp] at h; cases h
  | infinity s => rw [hp] at h; cases s <;> cases h
  | finite s m e hm => rw [hp] at h; cases s <;> cases h

/-- The greater of two numbers, which may be infinite, has the greater sum with a finite one. -/
theorem add_le_add_right (hab : a ≤ b) (hc : Finite c) : a + c ≤ b + c := by
  obtain ⟨ha, hb⟩ := Scalar.Total.isNumber_of_le hab
  have hsum := isDefined_add_finite (isDefined_of_isNumber ha) hc
  have hsum' := isDefined_add_finite (isDefined_of_isNumber hb) hc
  by_cases haFinite : Finite a
  · by_cases hbFinite : Finite b
    · refine (haFinite.add hc).le (hbFinite.add hc) ?_
      rw [le_iff_toReal haFinite hbFinite] at hab
      linarith
    · obtain ⟨s, hs⟩ := exists_infinity (isDefined_of_isNumber hb) hbFinite
      cases s with
      | negative => exact absurd hs (parts_ne_infinity_of_le haFinite hab)
      | positive => exact le_infinity hsum (parts_add_infinity hs hc)
  · obtain ⟨s, hs⟩ := exists_infinity (isDefined_of_isNumber ha) haFinite
    cases s with
    | negative => exact infinity_le hsum' (parts_add_infinity hs hc)
    | positive =>
      -- nothing but infinity itself lies above infinity
      have hbFinite : ¬ Finite b := fun hbFinite => parts_ne_infinity_of_ge hbFinite hab hs
      obtain ⟨t, ht⟩ := exists_infinity (isDefined_of_isNumber hb) hbFinite
      cases t with
      | negative => rw [le_iff, hs, ht] at hab; cases hab
      | positive => exact le_infinity hsum (parts_add_infinity ht hc)

/-! ## Taking from a finite number -/

theorem isDefined_finite_sub (hc : Finite c) (ha : IsDefined (parts a)) :
    IsDefined (parts (c - a)) := by
  rw [parts_sub]
  exact (isDefined_sub hc ha).repack

theorem parts_sub_infinity {s : Sign} (hc : Finite c) (ha : parts a = .infinity s) :
    parts (c - a) = .infinity (-s) := by
  rw [parts_sub, ha]
  unfold Finite at hc
  cases hp : parts c with
  | notANumber | infinity => rw [hp] at hc; cases hc
  | zero | finite => exact repack_infinity (-s)

/-- The greater of two numbers, which may be infinite, leaves less of a finite one. -/
theorem sub_le_sub_left (hab : a ≤ b) (hc : Finite c) : c - b ≤ c - a := by
  obtain ⟨ha, hb⟩ := Scalar.Total.isNumber_of_le hab
  have hless := isDefined_finite_sub hc (isDefined_of_isNumber hb)
  have hmore := isDefined_finite_sub hc (isDefined_of_isNumber ha)
  by_cases haFinite : Finite a
  · by_cases hbFinite : Finite b
    · refine (hc.sub hbFinite).le (hc.sub haFinite) ?_
      rw [le_iff_toReal haFinite hbFinite] at hab
      linarith
    · obtain ⟨s, hs⟩ := exists_infinity (isDefined_of_isNumber hb) hbFinite
      cases s with
      | negative => exact absurd hs (parts_ne_infinity_of_le haFinite hab)
      | positive => exact infinity_le hmore (parts_sub_infinity hc hs)
  · obtain ⟨s, hs⟩ := exists_infinity (isDefined_of_isNumber ha) haFinite
    cases s with
    | negative => exact le_infinity hless (parts_sub_infinity hc hs)
    | positive =>
      -- nothing but infinity itself lies above infinity
      have hbFinite : ¬ Finite b := fun hbFinite => parts_ne_infinity_of_ge hbFinite hab hs
      obtain ⟨t, ht⟩ := exists_infinity (isDefined_of_isNumber hb) hbFinite
      cases t with
      | negative => rw [le_iff, hs, ht] at hab; cases hab
      | positive => exact infinity_le hmore (parts_sub_infinity hc ht)

/-! ## Sums of lists -/

theorem isDefined_foldl_add (ha : IsDefined (parts a)) (hl : ∀ c ∈ l, Finite c) :
    IsDefined (parts (l.foldl (· + ·) a)) := by
  induction l generalizing a with
  | nil => exact ha
  | cons c l ih =>
    exact ih (isDefined_add_finite ha (hl c List.mem_cons_self))
      fun d hd => hl d (List.mem_cons_of_mem c hd)

/-- Sums of finite numbers that are added up from a greater number are greater. -/
theorem foldl_add_le (h : a ≤ b) (hl : ∀ c ∈ l, Finite c) :
    l.foldl (· + ·) a ≤ l.foldl (· + ·) b := by
  induction l generalizing a b with
  | nil => exact h
  | cons c l ih =>
    exact ih (add_le_add_right h (hl c List.mem_cons_self))
      fun d hd => hl d (List.mem_cons_of_mem c hd)

/-- Sums of numbers that are not negative are not negative. -/
theorem zero_le_foldl_add (ha : 0 ≤ a) (hl : ∀ c ∈ l, 0 ≤ c) : 0 ≤ l.foldl (· + ·) a := by
  induction l generalizing a with
  | nil => exact ha
  | cons c l ih =>
    exact ih (zero_le_add ha (hl c List.mem_cons_self))
      fun d hd => hl d (List.mem_cons_of_mem c hd)

end Cityscape.Single

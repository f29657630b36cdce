import Cityscape.Proofs.Scalar.Exactness

/-!
# Numbers as real numbers

A finite number is a real number, and the operations and comparisons of numbers are those of real
numbers up to rounding. A rounded result is stored as it is unless it is too large.

## Main definitions

* `Single.toReal` — the real number that a finite number stands for.
* `Single.Rounds` — a number that is a real number rounded and stored.

## Main statements

* `Single.Rounds.finite` — a result that is small enough is finite and has the rounded value.
* `Single.Finite.add`, `Single.Finite.sub`, `Single.Finite.mul`, `Single.Finite.div`,
  `Single.Finite.sqrt` — operations round the real results.
* `Single.le_iff_toReal`, `Single.lt_iff_toReal`, `Single.beq_iff_toReal` — numbers compare as the
  real numbers do.
-/

namespace Cityscape.Single

open Float.Model (Format UnpackedFloat totalExponent)
open Float.Model.UnpackedFloat

variable {x y z v w : ℝ} {f g : UnpackedFloat} {a b : Float32}

/-! ## Storing -/

theorem two_pow_le_value {m : ℕ} {e : ℤ} (hnormal : -149 < e → 2 ^ 23 ≤ m) (he : 105 ≤ e) :
    (2 : ℝ) ^ 128 ≤ m * 2 ^ e := by
  have hm : (2 : ℝ) ^ 23 ≤ m := by exact_mod_cast hnormal (by omega)
  calc (2 : ℝ) ^ 128 = 2 ^ 23 * 2 ^ (105 : ℤ) := by norm_num
    _ ≤ (m : ℝ) * 2 ^ e := by gcongr; exact one_le_two

theorem abs_signed (s : Sign) (hx : 0 ≤ x) : |signed s x| = x := by
  cases s
  · exact (abs_neg x).trans (abs_of_nonneg hx)
  · exact abs_of_nonneg hx

theorem ofNat_ne {n w : ℕ} {c : BitVec w} (hn : n < 2 ^ w) (hne : n ≠ c.toNat) :
    BitVec.ofNat w n ≠ c := by
  rintro rfl
  rw [BitVec.toNat_ofNat, Nat.mod_eq_of_lt hn] at hne
  exact hne rfl

/-- The digits of a normal number are read back from its word. -/
theorem assemble_normal (s : Sign) {m : ℕ} {e : ℤ} (hm : 0 < m) (hbits : 2 ^ 23 ≤ m)
    (hlt : m < 2 ^ 24) (he : -149 ≤ e) (hexponent : e < 105) :
    assemble s (BitVec.ofNat 8 (e + 127 + 23).toNat) (BitVec.ofNat 23 m) = .finite s m e hm := by
  have hspecial : BitVec.ofNat 8 (e + 127 + 23).toNat ≠ -1#8 :=
    ofNat_ne (by omega) (by rw [show (-1#8).toNat = 255 from rfl]; omega)
  have hzero : BitVec.ofNat 8 (e + 127 + 23).toNat ≠ 0#8 :=
    ofNat_ne (by omega) (by rw [show (0#8).toNat = 0 from rfl]; omega)
  rw [assemble, if_neg hspecial, if_neg hzero]
  congr 1
  · rw [toNat_append_one, BitVec.toNat_ofNat]
    omega
  · rw [BitVec.toNat_ofNat]
    omega

/-- The digits of a subnormal number are read back from its word. -/
theorem assemble_subnormal (s : Sign) {m : ℕ} (hm : 0 < m) (hbits : m < 2 ^ 23) :
    assemble s 0#8 (BitVec.ofNat 23 m) = .finite s m (-149) hm := by
  have hmantissa : BitVec.ofNat 23 m ≠ 0#23 := ofNat_ne hbits hm.ne'
  rw [assemble, if_neg (by decide), if_pos rfl, dif_neg hmantissa]
  congr 1
  rw [BitVec.toNat_ofNat, Nat.mod_eq_of_lt hbits]

/-- A result that is small enough is stored as it is. -/
theorem repack_of_abs_lt (hf : Canonical f) (h : |value f| < 2 ^ 128) : repack f = f := by
  cases f with
  | notANumber | infinity => cases hf
  | zero s => exact repack_zero s
  | finite s m e hm =>
    obtain ⟨hlt, he, hnormal⟩ := hf
    have hexponent : e < 105 := by
      by_contra hge
      rw [value_finite, abs_signed s (by positivity)] at h
      exact absurd h (not_lt.2 (two_pow_le_value hnormal (not_lt.1 hge)))
    rw [repack_eq, pack_finite, if_neg (by omega)]
    by_cases hbits : 2 ^ 23 ≤ m
    · have hlog : m.log2 + 1 = 24 := by
        rw [(Nat.log2_eq_iff (k := 23) hm.ne').2 ⟨hbits, hlt⟩]
      rw [if_pos hlog, unpack_packComponents, assemble_normal s hm hbits hlt he hexponent]
    · have hlog : ¬ m.log2 + 1 = 24 := by
        have := (Nat.log2_lt hm.ne').2 (not_le.1 hbits)
        omega
      have he' : e = -149 := by
        by_contra hne
        exact hbits (hnormal (by omega))
      subst he'
      rw [if_neg hlog, unpack_packComponents, assemble_subnormal s hm (not_le.1 hbits)]

/-- Only results that are small enough are stored as finite numbers. -/
theorem abs_lt_of_repack (hf : Canonical f) (h : (repack f).isFinite = true) :
    |value f| < 2 ^ 128 := by
  cases f with
  | notANumber | infinity => cases hf
  | zero s => simp [value_zero]
  | finite s m e hm =>
    obtain ⟨hlt, he, hnormal⟩ := hf
    have hexponent : e < 105 := by
      by_contra hge
      rw [repack_eq, pack_finite, if_pos (by omega), unpack_packComponents] at h
      cases h
    rw [value_finite, abs_signed s (by positivity)]
    have hm' : (m : ℝ) < 2 ^ 24 := by exact_mod_cast hlt
    calc (m : ℝ) * 2 ^ e < 2 ^ 24 * 2 ^ e := by gcongr
      _ ≤ 2 ^ 24 * 2 ^ (104 : ℤ) := by gcongr; exacts [one_le_two, by omega]
      _ = 2 ^ 128 := by norm_num

theorem canonical_assemble (s : Sign) (e : BitVec 8) (m : BitVec 23)
    (h : (assemble s e m).isFinite = true) : Canonical (assemble s e m) := by
  have hm := m.isLt
  have he := e.isLt
  unfold assemble at h ⊢
  by_cases hspecial : e = -1#8
  · rw [if_pos hspecial] at h
    split at h <;> cases h
  rw [if_neg hspecial]
  split
  next hzero =>
    split
    · trivial
    · exact ⟨by omega, le_rfl, fun hlt => absurd hlt (lt_irrefl _)⟩
  next hzero =>
    have hpos : e.toNat ≠ 0 := fun h0 => hzero (BitVec.eq_of_toNat_eq h0)
    refine ⟨?_, by omega, fun _ => ?_⟩
    · rw [toNat_append_one]
      omega
    · rw [toNat_append_one]
      omega

/-! ## Numbers -/

/-- The real number that a finite number stands for. -/
noncomputable def toReal (a : Float32) : ℝ := value (parts a)

theorem Finite.canonical (h : Finite a) : Canonical (parts a) := by
  have hparts : parts a = assemble _ _ _ := unpack_eq_assemble a.toModel.toBits.toBitVec
  unfold Finite at h
  rw [hparts] at h ⊢
  exact canonical_assemble _ _ _ h

theorem Finite.abs_lt (h : Finite a) : |toReal a| < 2 ^ 128 :=
  abs_lt_of_repack h.canonical (by rw [repack_parts]; exact h)

theorem Finite.isRounding (h : Finite a) : IsRounding (toReal a) (toReal a) :=
  h.canonical.approximates.2

/-- The number is what becomes of a real number when it is rounded and stored. -/
def Rounds (x : ℝ) (a : Float32) : Prop := ∃ f, Approximates x f ∧ parts a = repack f

theorem Rounds.finite (h : Rounds x a) (hv : IsRounding x v) (hlt : |v| < 2 ^ 128) :
    Finite a ∧ toReal a = v := by
  obtain ⟨f, ⟨hf, hround⟩, hparts⟩ := h
  cases hround.eq hv
  rw [repack_of_abs_lt hf hlt] at hparts
  unfold Finite toReal
  rw [hparts]
  refine ⟨?_, rfl⟩
  cases f <;> first | rfl | cases hf

theorem Rounds.isRounding (h : Rounds x a) (hfin : Finite a) : IsRounding x (toReal a) := by
  obtain ⟨f, ⟨hf, hround⟩, hparts⟩ := h
  unfold Finite at hfin
  rw [hparts] at hfin
  have hstored := repack_of_abs_lt hf (abs_lt_of_repack hf hfin)
  unfold toReal
  rwa [hparts, hstored]

theorem Finite.add (ha : Finite a) (hb : Finite b) : Rounds (toReal a + toReal b) (a + b) :=
  ⟨_, approximates_add ha.canonical hb.canonical, parts_add a b⟩

theorem Finite.sub (ha : Finite a) (hb : Finite b) : Rounds (toReal a - toReal b) (a - b) :=
  ⟨_, approximates_sub ha.canonical hb.canonical, parts_sub a b⟩

theorem Finite.mul (ha : Finite a) (hb : Finite b) : Rounds (toReal a * toReal b) (a * b) :=
  ⟨_, approximates_mul ha.canonical hb.canonical, parts_mul a b⟩

theorem Finite.div (ha : Finite a) (hb : Finite b) (h0 : toReal b ≠ 0) :
    Rounds (toReal a / toReal b) (a / b) :=
  ⟨_, approximates_div ha.canonical hb.canonical h0, parts_div a b⟩

theorem Finite.sqrt (ha : Finite a) (h0 : 0 ≤ toReal a) : Rounds (√(toReal a)) a.sqrt :=
  ⟨_, approximates_sqrt ha.canonical h0, rfl⟩

theorem rounds_toFloat32 (n : UInt64) : Rounds n.toNat n.toFloat32 := by
  have happrox := approximates_normalize n.toNat 0 .positive
  rw [zpow_zero, mul_one, Int.cast_natCast] at happrox
  exact ⟨_, happrox, rfl⟩

theorem finite_zero : Finite 0 := rfl

theorem toReal_zero : toReal 0 = 0 := rfl

theorem toReal_one : Finite 1 ∧ toReal 1 = 1 := by
  have hparts : parts 1 = .finite .positive 8388608 (-23) (by decide) := rfl
  unfold Finite toReal
  rw [hparts]
  refine ⟨rfl, ?_⟩
  rw [value_finite, signed]
  norm_num

/-- The least positive number. -/
theorem toReal_least : toReal (Float32.ofBits 1) = 2 ^ (-149 : ℤ) := by
  have hparts : parts (Float32.ofBits 1) = .finite .positive 1 (-149) Nat.one_pos := rfl
  rw [toReal, hparts, value_finite, signed]
  norm_num

theorem isRounding_natCast {n : ℕ} (hn : n < 2 ^ 24) : IsRounding n n := by
  have h := IsRounding.of_digits (m := n) (e := 0) (by rw [Nat.abs_cast]; exact_mod_cast hn)
    (by norm_num)
  simpa using h

theorem rounds_ofNat (n : ℕ) : Rounds n (Float32.ofNat n) := by
  by_cases hn : n < 2 ^ 23
  · have hsize : n.toUInt64.toNat = n := Nat.mod_eq_of_lt (by omega)
    have hsmall : Float32.ofNat n = n.toUInt64.toFloat32 * 1 := dif_pos ⟨hn, Nat.zero_le 10⟩
    have hlt : |(n : ℝ)| < 2 ^ 128 := by
      rw [Nat.abs_cast]
      exact_mod_cast hn.trans (by norm_num)
    obtain ⟨hfin, hreal⟩ := (rounds_toFloat32 n.toUInt64).finite
      (hsize.symm ▸ isRounding_natCast (hn.trans (by norm_num))) hlt
    have hmul := hfin.mul toReal_one.1
    rw [hreal, toReal_one.2, mul_one] at hmul
    rw [hsmall]
    exact hmul
  · have hpos : n ≠ 0 := by omega
    have hscientific : Float32.ofNat n = Float32.ofModel (Float32.Model.ofScientific n 0) :=
      dif_neg fun h => hn h.1
    have hround : UnpackedFloat.ofScientific .binary32 n 0 =
        roundWithAccuracy .binary32 .positive (n <<< 24 * 10 ^ 0) (-24) .exact := by
      rw [UnpackedFloat.ofScientific, dif_neg hpos, if_neg (by norm_num),
        if_neg (not_lt.2 (neg_nonpos.2 (by positivity))), if_pos le_rfl]
      rfl
    rw [pow_zero, mul_one] at hround
    have hfit : (-24 : ℤ) ≤ Format.binary32.targetExponent (totalExponent (n <<< 24) (-24)) := by
      refine le_targetExponent fun _ => ?_
      rw [Nat.shiftLeft_eq]
      omega
    have hexact : Describes ((n <<< 24 : ℕ) : ℝ) (n <<< 24) .exact := rfl
    have happrox := approximates_roundWithAccuracy .positive hexact hfit
    have hvalue : ((n <<< 24 : ℕ) : ℝ) * 2 ^ (-24 : ℤ) = n := by
      rw [Nat.shiftLeft_eq, Nat.cast_mul, Nat.cast_pow, Nat.cast_ofNat, mul_assoc, ← zpow_natCast,
        ← zpow_add₀ two_ne_zero]
      norm_num
    rw [hvalue, ← hround] at happrox
    exact ⟨_, happrox, by rw [hscientific]; rfl⟩

/-! ## The order of numbers -/

theorem mul_two_pow_lt {m n : ℕ} {e d : ℤ} (hm : m < 2 ^ 24) (hn : 2 ^ 23 ≤ n) (hlt : e < d) :
    (m : ℝ) * 2 ^ e < n * 2 ^ d := by
  have hm' : (m : ℝ) < 2 ^ 24 := by exact_mod_cast hm
  have hn' : (2 : ℝ) ^ 23 ≤ n := by exact_mod_cast hn
  calc (m : ℝ) * 2 ^ e < 2 ^ 24 * 2 ^ e := by gcongr
    _ = 2 ^ 23 * 2 ^ (e + 1) := by rw [zpow_add₀ two_ne_zero]; ring
    _ ≤ n * 2 ^ d := by gcongr; exacts [one_le_two, hlt]

/-- Magnitudes are ordered by exponent and then by mantissa. -/
theorem mul_two_pow_lt_of_lex {m n : ℕ} {e d : ℤ} (hm : m < 2 ^ 24) (he : -149 ≤ e)
    (hn : -149 < d → 2 ^ 23 ≤ n) (h : toLex (e, (m : ℤ)) < toLex (d, (n : ℤ))) :
    (m : ℝ) * 2 ^ e < n * 2 ^ d := by
  obtain hlt | ⟨rfl, hlt⟩ := Prod.Lex.toLex_lt_toLex.1 h
  · exact mul_two_pow_lt hm (hn (lt_of_le_of_lt he hlt)) hlt
  · have hcast : (m : ℝ) < n := by exact_mod_cast (Int.ofNat_lt.1 hlt : m < n)
    gcongr

/-- Results with the digits of numbers rank as they are ordered on the real line. -/
theorem value_lt_of_rank (hf : Canonical f) (hg : Canonical g) {r s : ℤ ×ₗ ℤ ×ₗ ℤ}
    (hr : rank f = some r) (hs : rank g = some s) (h : r < s) : value f < value g := by
  cases f with
  | notANumber | infinity => cases hf
  | zero sf =>
    cases hr
    cases g with
    | notANumber | infinity => cases hg
    | zero sg =>
      cases hs
      exact absurd h (lt_irrefl _)
    | finite sg n d hn =>
      have hpos : (0 : ℝ) < n * 2 ^ d := by positivity
      cases sg with
      | negative =>
        cases hs
        simp [Prod.Lex.toLex_lt_toLex] at h
      | positive => exact hpos
  | finite sf m e hm =>
    have hpos : (0 : ℝ) < m * 2 ^ e := by positivity
    obtain ⟨hm', he, hmnormal⟩ := hf
    cases g with
    | notANumber | infinity => cases hg
    | zero sg =>
      cases hs
      cases sf with
      | negative => exact neg_neg_iff_pos.2 hpos
      | positive =>
        cases hr
        simp [Prod.Lex.toLex_lt_toLex] at h
    | finite sg n d hn =>
      have hpos' : (0 : ℝ) < n * 2 ^ d := by positivity
      obtain ⟨hn', hd, hnnormal⟩ := hg
      cases sf with
      | negative =>
        cases hr
        cases sg with
        | negative =>
          cases hs
          refine neg_lt_neg (mul_two_pow_lt_of_lex hn' hd hmnormal ?_)
          simp only [Prod.Lex.toLex_lt_toLex, lt_self_iff_false, true_and, false_or] at h ⊢
          omega
        | positive => exact (neg_neg_iff_pos.2 hpos).trans hpos'
      | positive =>
        cases hr
        cases sg with
        | negative =>
          cases hs
          simp [Prod.Lex.toLex_lt_toLex] at h
        | positive =>
          cases hs
          refine mul_two_pow_lt_of_lex hm' he hnnormal ?_
          simpa only [Prod.Lex.toLex_lt_toLex, lt_self_iff_false, true_and, false_or] using h

theorem Canonical.exists_rank (hf : Canonical f) : ∃ r, rank f = some r := by
  cases f with
  | notANumber | infinity => cases hf
  | zero s => exact ⟨_, rfl⟩
  | finite s m e hm => cases s <;> exact ⟨_, rfl⟩

theorem value_eq_of_rank (hf : Canonical f) (hg : Canonical g) (h : rank f = rank g) :
    value f = value g := by
  cases f with
  | notANumber | infinity => cases hf
  | zero sf =>
    cases g with
    | notANumber | infinity => cases hg
    | zero sg => rfl
    | finite sg n d hn => cases sg <;> simp [rank] at h
  | finite sf m e hm =>
    cases g with
    | notANumber | infinity => cases hg
    | zero sg => cases sf <;> simp [rank] at h
    | finite sg n d hn =>
      cases sf <;> cases sg <;> simp [rank] at h <;> simp [value, h]

theorem le_iff_of_rank {r s : ℤ ×ₗ ℤ ×ₗ ℤ} (hr : rank (parts a) = some r)
    (hs : rank (parts b) = some s) : a ≤ b ↔ r ≤ s := by
  rw [le_iff_rank, hr, hs]
  simp

/-- Finite numbers are ordered as on the real line. -/
theorem le_iff_toReal (ha : Finite a) (hb : Finite b) : a ≤ b ↔ toReal a ≤ toReal b := by
  obtain ⟨r, hr⟩ := ha.canonical.exists_rank
  obtain ⟨s, hs⟩ := hb.canonical.exists_rank
  rw [le_iff_of_rank hr hs]
  constructor
  · intro hle
    obtain heq | hlt := hle.eq_or_lt
    · exact (value_eq_of_rank ha.canonical hb.canonical (by rw [hr, hs, heq])).le
    · exact (value_lt_of_rank ha.canonical hb.canonical hr hs hlt).le
  · intro hle
    by_contra hlt
    exact absurd hle (not_le.2 (value_lt_of_rank hb.canonical ha.canonical hs hr (not_le.1 hlt)))

theorem lt_iff_toReal (ha : Finite a) (hb : Finite b) : a < b ↔ toReal a < toReal b := by
  obtain ⟨r, hr⟩ := ha.canonical.exists_rank
  obtain ⟨s, hs⟩ := hb.canonical.exists_rank
  rw [← not_le, ← le_iff_toReal hb ha, le_iff_of_rank hs hr, lt_iff_rank, hr, hs]
  simp

theorem beq_iff_toReal (ha : Finite a) (hb : Finite b) :
    (a == b) = true ↔ toReal a = toReal b := by
  obtain ⟨r, hr⟩ := ha.canonical.exists_rank
  obtain ⟨s, hs⟩ := hb.canonical.exists_rank
  rw [le_antisymm_iff (a := toReal a), ← le_iff_toReal ha hb, ← le_iff_toReal hb ha,
    le_iff_of_rank hr hs, le_iff_of_rank hs hr, ← le_antisymm_iff, beq_iff_rank, hr, hs]
  simp [eq_comm (a := s)]

theorem parts_ne_infinity_of_le (ha : Finite a) (h : a ≤ b) : parts b ≠ .infinity .negative := by
  intro hb
  rw [le_iff, hb] at h
  unfold Finite at ha
  cases hp : parts a with
  | notANumber | infinity => rw [hp] at ha; cases ha
  | zero s => rw [hp] at h; cases h
  | finite s m e hm => rw [hp] at h; cases s <;> cases h

theorem parts_ne_infinity_of_ge (ha : Finite a) (h : b ≤ a) : parts b ≠ .infinity .positive := by
  intro hb
  rw [le_iff, hb] at h
  unfold Finite at ha
  cases hp : parts a with
  | notANumber | infinity => rw [hp] at ha; cases ha
  | zero s => rw [hp] at h; cases h
  | finite s m e hm => rw [hp] at h; cases s <;> cases h

/-- What lies between finite numbers is finite. -/
theorem Finite.of_le (ha : Finite a) (hb : Finite b) {c : Float32} (hac : a ≤ c) (hcb : c ≤ b) :
    Finite c := by
  have hnan := parts_ne_of_le hac
  have hnegative := parts_ne_infinity_of_le ha hac
  have hpositive := parts_ne_infinity_of_ge hb hcb
  unfold Finite
  cases hp : parts c with
  | notANumber => exact absurd hp hnan
  | infinity s => cases s <;> contradiction
  | zero s => rfl
  | finite s m e hm => rfl

end Cityscape.Single

import Cityscape.Proofs.Scalar.Countdown
import Cityscape.Proofs.Scalar.Steps

/-!
# Going down through the numbers

The words of positive numbers are in the order of the numbers: a word counts the digits of its
number, and passes from the greatest digits of one exponent to the least digits of the next. So the
word before that of a positive number is the word of a smaller one that is not negative, and going
down from word to word comes to zero.

## Main definitions

* `Single.Digits` — the digits and the exponent of a positive number.
* `Single.wordOf` — the word of a positive number with given digits and exponent.

## Main statements

* `Single.exists_digits_of_pos` — the digits of a positive number.
* `Single.pred_spec` — the predecessor of a positive number.
-/

namespace Cityscape.Single

open Float.Model (Format UnpackedFloat)
open Float.Model.UnpackedFloat

/-! ## Words -/

/-- Binary digits and an exponent are those of a positive number. -/
structure Digits (m : ℕ) (e : ℤ) : Prop where
  pos : 0 < m
  lt : m < 2 ^ 24
  least : -149 ≤ e
  greatest : e < 105
  normal : -149 < e → 2 ^ 23 ≤ m

/-- The word of the positive number with some digits and an exponent. -/
def wordOf (m : ℕ) (e : ℤ) : UInt32 := UInt32.ofNat ((e + 149).toNat * 2 ^ 23 + m)

theorem toNat_packComponents_positive (exponent : BitVec 8) (mantissa : BitVec 23) :
    (packComponents .binary32 .positive exponent mantissa).toNat =
      exponent.toNat * 2 ^ 23 + mantissa.toNat := by
  have hsign : (Sign.positive.toBitVec ++ exponent).toNat = exponent.toNat := by
    rw [BitVec.toNat_append]
    exact Nat.zero_or _
  have happend : (packComponents .binary32 .positive exponent mantissa).toNat =
      (Sign.positive.toBitVec ++ exponent).toNat <<< 23 ||| mantissa.toNat :=
    BitVec.toNat_append _ _
  rw [happend, hsign, ← Nat.shiftLeft_add_eq_or_of_lt mantissa.isLt, Nat.shiftLeft_eq]

/-- Before a word comes the one with one digit less. -/
theorem wordOf_sub_one {m n : ℕ} {e d : ℤ}
    (h : (e + 149).toNat * 2 ^ 23 + m = (d + 149).toNat * 2 ^ 23 + n + 1) :
    wordOf m e - 1 = wordOf n d := by
  rw [wordOf, wordOf, h, UInt32.ofNat_add]
  exact UInt32.add_sub_cancel _ _

namespace Digits

variable {m : ℕ} {e : ℤ}

/-- The word of a number is put together from the exponent and the mantissa of the number. -/
theorem exists_wordOf_eq (h : Digits m e) : ∃ exponent mantissa,
    (wordOf m e).toBitVec = packComponents .binary32 .positive exponent mantissa ∧
      assemble .positive exponent mantissa = .finite .positive m e h.pos := by
  obtain ⟨hm, hlt, he, hexponent, hnormal⟩ := h
  have hnat : (wordOf m e).toBitVec.toNat = (e + 149).toNat * 2 ^ 23 + m :=
    (BitVec.toNat_ofNat _ _).trans (Nat.mod_eq_of_lt (by omega))
  by_cases hbits : 2 ^ 23 ≤ m
  · refine ⟨_, _, BitVec.eq_of_toNat_eq ?_, assemble_normal _ hm hbits hlt he hexponent⟩
    rw [hnat, toNat_packComponents_positive, BitVec.toNat_ofNat, BitVec.toNat_ofNat]
    omega
  · obtain rfl : e = -149 := by
      by_contra hne
      exact hbits (hnormal (by omega))
    refine ⟨_, _, BitVec.eq_of_toNat_eq ?_, assemble_subnormal _ hm (not_le.1 hbits)⟩
    rw [hnat, toNat_packComponents_positive, BitVec.toNat_ofNat, BitVec.toNat_ofNat]
    omega

/-- The digits of a positive number are read back from its word, and the word from the number. -/
theorem ofBits_wordOf (h : Digits m e) :
    parts (Float32.ofBits (wordOf m e)) = .finite .positive m e h.pos ∧
      (Float32.ofBits (wordOf m e)).toBits = wordOf m e := by
  obtain ⟨exponent, mantissa, hword, hassemble⟩ := h.exists_wordOf_eq
  have hproper : exponent = -1#8 → mantissa = 0#23 := by
    intro hspecial
    rw [assemble, if_pos hspecial] at hassemble
    split at hassemble <;> cases hassemble
  have hpack : pack .binary32 (unpack .binary32 (wordOf m e).toBitVec) = (wordOf m e).toBitVec := by
    rw [hword, unpack_packComponents, pack_assemble _ _ _ hproper]
  have hparts : parts (Float32.ofBits (wordOf m e)) = unpack .binary32
      (pack .binary32 (unpack .binary32 (wordOf m e).toBitVec)) := rfl
  have hbits : (Float32.ofBits (wordOf m e)).toBits =
      UInt32.ofBitVec (pack .binary32 (unpack .binary32 (wordOf m e).toBitVec)) := rfl
  rw [hparts, hbits, hpack]
  exact ⟨by rw [hword, unpack_packComponents, hassemble], rfl⟩

theorem toReal_ofBits (h : Digits m e) : Finite (Float32.ofBits (wordOf m e)) ∧
    toReal (Float32.ofBits (wordOf m e)) = m * 2 ^ e := by
  unfold Finite toReal
  rw [h.ofBits_wordOf.1]
  exact ⟨rfl, rfl⟩

/-- The digits of the number before a positive one, which may be zero. -/
theorem exists_pred (h : Digits m e) : wordOf m e - 1 = 0 ∨
    ∃ n d, Digits n d ∧ wordOf m e - 1 = wordOf n d ∧ (n : ℝ) * 2 ^ d < m * 2 ^ e := by
  obtain ⟨hm, hlt, he, hexponent, hnormal⟩ := id h
  by_cases hcarry : m = 2 ^ 23 ∧ -149 < e
  · -- the least digits of an exponent follow on the greatest ones of the exponent before
    obtain ⟨rfl, hleast⟩ := hcarry
    have hdigits : Digits (2 ^ 24 - 1) (e - 1) :=
      ⟨by norm_num, by norm_num, by omega, by omega, fun _ => by norm_num⟩
    refine .inr ⟨_, _, hdigits, wordOf_sub_one (by omega), ?_⟩
    exact mul_two_pow_lt hdigits.lt le_rfl (by omega)
  by_cases hone : m = 1
  · obtain rfl : e = -149 := by
      by_contra hne
      have := hnormal (by omega)
      omega
    subst hone
    exact .inl (by decide)
  · have hdigits : Digits (m - 1) e := ⟨by omega, by omega, he, hexponent, fun hleast => by
      have := hnormal hleast
      omega⟩
    refine .inr ⟨_, _, hdigits, wordOf_sub_one (by omega), ?_⟩
    have hless : ((m - 1 : ℕ) : ℝ) < m := by exact_mod_cast Nat.sub_lt hm one_pos
    gcongr

end Digits

variable {a : Float32}

/-- A positive number is made of its digits. -/
theorem exists_digits_of_pos (ha : Finite a) (hpos : 0 < toReal a) :
    ∃ m e, Digits m e ∧ a = Float32.ofBits (wordOf m e) := by
  have hcanonical := ha.canonical
  have hbound := ha.abs_lt
  unfold toReal at hpos hbound
  cases hp : parts a with
  | notANumber | infinity => rw [hp] at hcanonical; cases hcanonical
  | zero s => rw [hp, value_zero] at hpos; exact absurd hpos (lt_irrefl _)
  | finite s m e hm =>
    rw [hp] at hcanonical hpos hbound
    obtain ⟨hlt, he, hnormal⟩ := hcanonical
    cases s with
    | negative => exact absurd hpos (not_lt.2 (neg_nonpos.2 (by positivity)))
    | positive =>
      rw [value_finite, abs_signed _ (by positivity)] at hbound
      have hexponent : e < 105 := by
        by_contra hge
        exact absurd hbound (not_lt.2 (two_pow_le_value hnormal (not_lt.1 hge)))
      have hdigits : Digits m e := ⟨hm, hlt, he, hexponent, hnormal⟩
      exact ⟨m, e, hdigits, parts_injective (hp.trans hdigits.ofBits_wordOf.1.symm)⟩

/-- The predecessor of a positive number is smaller and not negative. -/
theorem pred_spec (ha : Finite a) (hpos : 0 < toReal a) :
    Finite (pred a) ∧ 0 ≤ toReal (pred a) ∧ toReal (pred a) < toReal a := by
  obtain ⟨m, e, hdigits, rfl⟩ := exists_digits_of_pos ha hpos
  rw [pred, hdigits.ofBits_wordOf.2]
  obtain hzero | ⟨n, d, hpred, hword, hlt⟩ := hdigits.exists_pred
  · rw [hzero]
    exact ⟨finite_zero, toReal_zero.ge, hpos⟩
  · obtain ⟨hfin, hreal⟩ := hpred.toReal_ofBits
    rw [hword, hreal, hdigits.toReal_ofBits.2]
    exact ⟨hfin, by positivity, hlt⟩

end Cityscape.Single

import Mathlib
import Cityscape.Scalar.Single

/-!
# Single-precision numbers and their parts

A single-precision number is a word that stands for an infinity, for a zero, for a finite number by
sign, mantissa and exponent, or for no number. Operations take words apart, compute with the parts
and put the result together again.

## Main definitions

* `Single.parts` — the parts of a number.
* `Single.repack` — what becomes of a result when it is stored.

## Main statements

* `Single.repack_parts` — storing the parts of a number changes nothing.
* `Single.repack_neg` — storing does not depend on the sign.
-/

namespace Cityscape.Single

open Float.Model (Format UnpackedFloat)
open Float.Model.UnpackedFloat

/-- The parts of a number. -/
def parts (a : Float32) : UnpackedFloat := a.toModel.unpack

/-- A result after it was stored as a number. -/
def repack (f : UnpackedFloat) : UnpackedFloat := (Float32.Model.pack f).unpack

theorem parts_add (a b : Float32) :
    parts (a + b) = repack (add .binary32 (parts a) (parts b)) := rfl

theorem parts_sub (a b : Float32) :
    parts (a - b) = repack (sub .binary32 (parts a) (parts b)) := rfl

theorem parts_mul (a b : Float32) :
    parts (a * b) = repack (mul .binary32 (parts a) (parts b)) := rfl

theorem parts_div (a b : Float32) :
    parts (a / b) = repack (div .binary32 (parts a) (parts b)) := rfl

@[simp] theorem repack_zero (s : Sign) : repack (.zero s) = .zero s := by
  cases s <;> rfl

@[simp] theorem repack_infinity (s : Sign) : repack (.infinity s) = .infinity s := by
  cases s <;> rfl

@[simp] theorem repack_notANumber : repack .notANumber = .notANumber := rfl

/-! ## Words -/

theorem toNat_append_one (m : BitVec 23) : (1#1 ++ m).toNat = 8388608 + m.toNat := by
  rw [BitVec.toNat_append, ← Nat.shiftLeft_add_eq_or_of_lt m.isLt]
  rfl

/-- What sign, exponent and mantissa of a word stand for. -/
def assemble (s : Sign) (e : BitVec 8) (m : BitVec 23) : UnpackedFloat :=
  if e = -1#8 then
    if m = 0#23 then .infinity s else .notANumber
  else if e = 0#8 then
    if h : m = 0#23 then .zero s
    else .finite s m.toNat (-149) (by simpa [BitVec.toNat_pos, BitVec.pos_iff_ne_zero])
  else .finite s (1#1 ++ m).toNat (e.toNat - 150) (by rw [toNat_append_one]; omega)

theorem assemble_neg (s : Sign) (e : BitVec 8) (m : BitVec 23) :
    assemble (-s) e m = (assemble s e m).neg := by
  unfold assemble
  repeat' split
  all_goals rfl

theorem unpack_eq_assemble (b : BitVec Format.binary32.numBits) :
    unpack .binary32 b =
      assemble (Sign.ofBitVec (unpackSign b)) (unpackExponent b) (unpackMantissa b) := by
  have hbias : (Format.binary32.exponentBias : Int) = 127 := rfl
  by_cases hspecial : unpackExponent b = -1#8
  · simp only [unpack, assemble, if_pos hspecial]
  by_cases hzero : unpackExponent b = 0#8
  · have hsubnormal : ((unpackExponent b).toNat : Int) - (127 + 23) + 1 = -149 := by
      rw [hzero]
      rfl
    simp only [unpack, assemble, if_neg hspecial, if_pos hzero, hbias]
    congr 1
    funext hmantissa
    congr 1
  · simp only [unpack, assemble, if_neg hspecial, if_neg hzero, hbias]
    rfl

theorem sign_ofBitVec_toBitVec (s : Sign) : Sign.ofBitVec s.toBitVec = s := by
  cases s <;> rfl

theorem sign_toBitVec_ofBitVec (b : BitVec 1) : (Sign.ofBitVec b).toBitVec = b := by
  rcases BitVec.eq_zero_or_eq_one b with rfl | rfl <;> rfl

theorem unpackSign_packComponents (s : Sign) (e : BitVec 8) (m : BitVec 23) :
    unpackSign (packComponents .binary32 s e m) = s.toBitVec := by
  refine BitVec.eq_of_getLsbD_eq fun i hi => ?_
  have hzero : i = 0 := by omega
  rw [hzero]
  simp only [unpackSign, packComponents, BitVec.extractLsb]
  grind

/-- A word is put together from its sign, its exponent and its mantissa. -/
theorem packComponents_unpack (b : BitVec Format.binary32.numBits) :
    packComponents .binary32 (Sign.ofBitVec (unpackSign b)) (unpackExponent b)
      (unpackMantissa b) = b := by
  rw [packComponents, sign_toBitVec_ofBitVec]
  refine BitVec.eq_of_getLsbD_eq fun i hi => ?_
  simp only [BitVec.getLsbD_append, unpackSign, unpackExponent, unpackMantissa, BitVec.extractLsb]
  grind

theorem unpack_packComponents (s : Sign) (e : BitVec 8) (m : BitVec 23) :
    unpack .binary32 (packComponents .binary32 s e m) = assemble s e m := by
  rw [unpack_eq_assemble, unpackSign_packComponents, unpackExponent_packComponents,
    unpackMantissa_packComponents, sign_ofBitVec_toBitVec]

/-! ## Storing -/

theorem repack_eq (f : UnpackedFloat) : repack f = unpack .binary32 (pack .binary32 f) := rfl

/-- A finite result is stored as the word of an infinity, a normal number or a subnormal number. -/
theorem pack_finite (s : Sign) (m : Nat) (e : Int) (hm : 0 < m) :
    pack .binary32 (.finite s m e hm) =
      if 256 ≤ (e + 127 + 23).toNat + 1 then packComponents .binary32 s (-1#8) 0#23
      else if m.log2 + 1 = 24 then
        packComponents .binary32 s (BitVec.ofNat 8 (e + 127 + 23).toNat) (BitVec.ofNat 23 m)
      else packComponents .binary32 s 0#8 (BitVec.ofNat 23 m) := rfl

/-- The sign of a finite result does not matter to the other parts of its word. -/
theorem repack_finite (m : Nat) (e : Int) (hm : 0 < m) :
    ∃ exponent mantissa, ∀ s, repack (.finite s m e hm) = assemble s exponent mantissa := by
  by_cases hlarge : 256 ≤ (e + 127 + 23).toNat + 1
  · refine ⟨-1#8, 0#23, fun s => ?_⟩
    rw [repack_eq, pack_finite, if_pos hlarge, unpack_packComponents]
  by_cases hnormal : m.log2 + 1 = 24
  · refine ⟨BitVec.ofNat 8 (e + 127 + 23).toNat, BitVec.ofNat 23 m, fun s => ?_⟩
    rw [repack_eq, pack_finite, if_neg hlarge, if_pos hnormal, unpack_packComponents]
  · refine ⟨0#8, BitVec.ofNat 23 m, fun s => ?_⟩
    rw [repack_eq, pack_finite, if_neg hlarge, if_neg hnormal, unpack_packComponents]

/-- Storing does not depend on the sign. -/
theorem repack_neg (f : UnpackedFloat) : repack f.neg = (repack f).neg := by
  cases f with
  | notANumber => rfl
  | zero s => simp [neg]
  | infinity s => simp [neg]
  | finite s m e hm =>
    obtain ⟨exponent, mantissa, h⟩ := repack_finite m e hm
    simp only [neg, h]
    exact assemble_neg s exponent mantissa

/-- A word is stored again as it was, unless it stands for no number. -/
theorem pack_assemble (s : Sign) (e : BitVec 8) (m : BitVec 23) (h : e = -1#8 → m = 0#23) :
    pack .binary32 (assemble s e m) = packComponents .binary32 s e m := by
  have hmantissa := m.isLt
  have hexponent := e.isLt
  by_cases hspecial : e = -1#8
  · rw [hspecial, h hspecial]
    rfl
  by_cases hzero : e = 0#8
  · by_cases hm : m = 0#23
    · rw [hzero, hm]
      rfl
    · have hpos : m.toNat ≠ 0 := fun h0 => hm (BitVec.eq_of_toNat_eq h0)
      have hlog : ¬ m.toNat.log2 + 1 = 24 := by
        have := (Nat.log2_lt hpos).2 hmantissa
        omega
      simp only [assemble, if_neg hspecial, if_pos hzero, dif_neg hm]
      rw [pack_finite, if_neg (by decide), if_neg hlog, hzero, BitVec.ofNat_toNat,
        BitVec.setWidth_eq]
  · have hlog : (1#1 ++ m).toNat.log2 + 1 = 24 := by
      have := (Nat.log2_eq_iff (n := (1#1 ++ m).toNat) (k := 23)
        (by rw [toNat_append_one]; omega)).2 (by rw [toNat_append_one]; omega)
      omega
    have hbiased : ((e.toNat : Int) - 150 + 127 + 23).toNat = e.toNat := by omega
    have hfinite : ¬ 256 ≤ e.toNat + 1 := by
      intro hle
      refine hspecial (BitVec.eq_of_toNat_eq ?_)
      rw [show (-1#8).toNat = 255 from rfl]
      omega
    have hcut : BitVec.ofNat 23 (1#1 ++ m).toNat = m := by
      refine BitVec.eq_of_toNat_eq ?_
      rw [BitVec.toNat_ofNat, toNat_append_one]
      omega
    simp only [assemble, if_neg hspecial, if_neg hzero]
    rw [pack_finite, hbiased, if_neg hfinite, if_pos hlog, hcut, BitVec.ofNat_toNat,
      BitVec.setWidth_eq]

/-- The word of a number is the only one that stands for its parts. -/
theorem pack_unpack {b : BitVec Format.binary32.numBits} (h : Format.binary32.Valid b) :
    pack .binary32 (unpack .binary32 b) = b := by
  rw [unpack_eq_assemble]
  by_cases hnan : unpackExponent b = -1#8 ∧ unpackMantissa b ≠ 0#23
  · simp only [assemble, if_pos hnan.1, if_neg hnan.2]
    exact (h.eq_packedNaN hnan.1 hnan.2).symm
  · rw [pack_assemble _ _ _ (by grind), packComponents_unpack]

/-- The parts of a number are stored as they are. -/
theorem repack_parts (a : Float32) : repack (parts a) = parts a := by
  obtain ⟨⟨bits, h⟩⟩ := a
  have hpack : UInt32.ofBitVec (pack .binary32 (unpack .binary32 bits.toBitVec)) = bits := by
    rw [pack_unpack h]
  simp only [repack, parts, Float32.Model.pack, Float32.Model.unpack, hpack]

end Cityscape.Single

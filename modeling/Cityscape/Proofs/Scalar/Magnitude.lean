import Cityscape.Vector
import Cityscape.Proofs.Scalar.Extremes

/-!
# Magnitudes

A distance is a number whenever the places are finite, also when it is too large and becomes
infinite: a square is not negative, and sums, square roots and halves of what is not negative are
numbers that are not negative.

## Main definitions

* `Single.IsDefined`, `Single.IsMagnitude` — a result is a number, and one that is not negative.
* `Vec2.IsFinite` — both components are finite.

## Main statements

* `Single.IsDefined.mul_self`, `Single.IsMagnitude.add`, `Single.IsMagnitude.sqrt` — squares, their
  sums, and square roots of these.
* `Single.zero_le_add` — the sum of numbers that are not negative.
* `Vec2.IsFinite.isNumber_distance` — how far it is from a finite place is a number.
-/

namespace Cityscape

namespace Single

open Float.Model (Format UnpackedFloat)
open Float.Model.UnpackedFloat

variable {f g : UnpackedFloat}

/-- A result is a number. -/
def IsDefined : UnpackedFloat → Prop
  | .notANumber => False
  | _ => True

/-- A result is a number that is not negative. -/
def IsMagnitude : UnpackedFloat → Prop
  | .notANumber => False
  | .zero _ => True
  | .infinity s | .finite s _ _ _ => s = .positive

theorem IsMagnitude.isDefined (h : IsMagnitude f) : IsDefined f := by
  cases f <;> trivial

/-! ## Storing -/

/-- A finite result is stored as a word that stands for a number. -/
theorem exists_assemble (s : Sign) (m : ℕ) (e : ℤ) (hm : 0 < m) :
    ∃ (w : BitVec 8) (n : BitVec 23), (w = -1#8 → n = 0#23) ∧
      repack (.finite s m e hm) = assemble s w n := by
  rw [repack_eq, pack_finite]
  split
  · exact ⟨-1#8, 0#23, fun _ => rfl, unpack_packComponents s _ _⟩
  next hsmall =>
    split
    · refine ⟨_, _, fun h => ?_, unpack_packComponents s _ _⟩
      have hnat := congrArg BitVec.toNat h
      rw [BitVec.toNat_ofNat, show (-1#8).toNat = 255 from rfl] at hnat
      omega
    · exact ⟨0#8, _, fun h => absurd h (by decide), unpack_packComponents s _ _⟩

theorem isDefined_assemble (s : Sign) {w : BitVec 8} {n : BitVec 23} (h : w = -1#8 → n = 0#23) :
    IsDefined (assemble s w n) := by
  unfold assemble
  split
  next hw => rw [if_pos (h hw)]; trivial
  · split
    · split <;> trivial
    · trivial

theorem isMagnitude_assemble {w : BitVec 8} {n : BitVec 23} (h : w = -1#8 → n = 0#23) :
    IsMagnitude (assemble .positive w n) := by
  unfold assemble
  split
  next hw => rw [if_pos (h hw)]; rfl
  · split
    · split <;> trivial
    · rfl

theorem IsDefined.repack (h : IsDefined f) : IsDefined (repack f) := by
  cases f with
  | notANumber => cases h
  | zero s => rw [repack_zero]; trivial
  | infinity s => rw [repack_infinity]; trivial
  | finite s m e hm =>
    obtain ⟨w, n, hn, hword⟩ := exists_assemble s m e hm
    rw [hword]
    exact isDefined_assemble s hn

theorem IsMagnitude.repack (h : IsMagnitude f) : IsMagnitude (repack f) := by
  cases f with
  | notANumber => cases h
  | zero s => rw [repack_zero]; trivial
  | infinity s => rw [repack_infinity]; exact h
  | finite s m e hm =>
    cases h
    obtain ⟨w, n, hn, hword⟩ := exists_assemble .positive m e hm
    rw [hword]
    exact isMagnitude_assemble hn

/-! ## Operations -/

theorem isDefined_round (s : Sign) (m : ℕ) (e : ℤ) (accuracy : Accuracy) :
    IsDefined (roundWithAccuracy .binary32 s m e accuracy) := by
  unfold roundWithAccuracy
  simp only
  split <;> trivial

theorem isMagnitude_round (m : ℕ) (e : ℤ) (accuracy : Accuracy) :
    IsMagnitude (roundWithAccuracy .binary32 .positive m e accuracy) := by
  unfold roundWithAccuracy
  simp only
  split
  · trivial
  · rfl

theorem isDefined_normalize (m e : ℤ) (s : Sign) :
    IsDefined (UnpackedFloat.normalize .binary32 m e s) := by
  unfold UnpackedFloat.normalize
  split
  · exact isDefined_round _ _ _ _
  · trivial
  · exact isDefined_round _ _ _ _

/-- A finite number and any other number have a difference. -/
theorem isDefined_sub (hf : f.isFinite = true) (hg : IsDefined g) :
    IsDefined (sub .binary32 f g) := by
  cases f with
  | notANumber | infinity => cases hf
  | zero s =>
    cases g with
    | notANumber => cases hg
    | zero t => cases s <;> cases t <;> trivial
    | infinity t | finite t m e hm => trivial
  | finite s m e hm =>
    cases g with
    | notANumber => cases hg
    | zero t | infinity t => trivial
    | finite t n d hn => exact isDefined_normalize _ _ _

/-- Any number and a finite one have a sum. -/
theorem IsDefined.add_finite (hf : IsDefined f) (hg : g.isFinite = true) :
    IsDefined (add .binary32 f g) := by
  cases g with
  | notANumber | infinity => cases hg
  | zero t =>
    cases f with
    | notANumber => cases hf
    | zero s => cases s <;> cases t <;> trivial
    | infinity s | finite s m e hm => trivial
  | finite t n d hn =>
    cases f with
    | notANumber => cases hf
    | zero s | infinity s => trivial
    | finite s m e hm => exact isDefined_normalize _ _ _

theorem IsDefined.div_finite (h : IsDefined f) (s : Sign) (n : ℕ) (d : ℤ) (hn : 0 < n) :
    IsDefined (div .binary32 f (.finite s n d hn)) := by
  cases f with
  | notANumber => cases h
  | zero t | infinity t => trivial
  | finite t m e hm => exact isDefined_round _ _ _ _

theorem IsDefined.mul_self (h : IsDefined f) : IsMagnitude (mul .binary32 f f) := by
  have hsign (s : Sign) : s * s = .positive := by cases s <;> rfl
  cases f with
  | notANumber => cases h
  | zero s => trivial
  | infinity s => exact hsign s
  | finite s m e hm =>
    rw [mul, hsign]
    exact isMagnitude_round _ _ _

theorem IsMagnitude.add (hf : IsMagnitude f) (hg : IsMagnitude g) :
    IsMagnitude (add .binary32 f g) := by
  cases f with
  | notANumber => cases hf
  | zero s =>
    cases g with
    | notANumber => cases hg
    | zero t => cases s <;> cases t <;> trivial
    | infinity t | finite t m e hm => exact hg
  | infinity s =>
    cases hf
    cases g with
    | notANumber => cases hg
    | zero t | finite t m e hm => rfl
    | infinity t => cases hg; rfl
  | finite s m e hm =>
    cases hf
    cases g with
    | notANumber => cases hg
    | zero t | infinity t => first | rfl | exact hg
    | finite t n d hn =>
      cases hg
      simp only [UnpackedFloat.add, UnpackedFloat.normalize]
      split
      next hlt =>
        have hneg := Int.compare_eq_lt.1 hlt
        simp only [Sign.apply] at hneg
        omega
      · trivial
      · exact isMagnitude_round _ _ _

theorem IsMagnitude.sqrt (h : IsMagnitude f) : IsMagnitude (sqrt .binary32 f) := by
  cases f with
  | notANumber => cases h
  | zero s => trivial
  | infinity s => cases h; rfl
  | finite s m e hm =>
    cases h
    exact isMagnitude_round _ _ _

/-! ## Numbers -/

theorem isNumber_of_isDefined {a : Float32} (h : IsDefined (parts a)) : Scalar.IsNumber a := by
  show (a == a) = true
  rw [beq_eq]
  cases hp : parts a with
  | notANumber => rw [hp] at h; cases h
  | zero s => rfl
  | infinity s => cases s <;> rfl
  | finite s m e hm => cases s <;> simp [UnpackedFloat.beq, UnpackedFloat.compare]

theorem isMagnitude_iff {a : Float32} : IsMagnitude (parts a) ↔ 0 ≤ a := by
  rw [le_iff]
  show IsMagnitude (parts a) ↔ UnpackedFloat.le (.zero .positive) (parts a) = true
  cases parts a with
  | notANumber => simp [IsMagnitude, UnpackedFloat.le, UnpackedFloat.compare]
  | zero s => simp [IsMagnitude, UnpackedFloat.le, UnpackedFloat.compare]
  | infinity s => cases s <;> simp [IsMagnitude, UnpackedFloat.le, UnpackedFloat.compare]
  | finite s m e hm => cases s <;> simp [IsMagnitude, UnpackedFloat.le, UnpackedFloat.compare]

theorem zero_le_add {a b : Float32} (ha : 0 ≤ a) (hb : 0 ≤ b) : 0 ≤ a + b :=
  isMagnitude_iff.1 ((isMagnitude_iff.2 ha).add (isMagnitude_iff.2 hb)).repack

end Single

/-! ## Distances -/

open Scalar Single

/-- Both components are finite. -/
def Vec2.IsFinite (v : Vec2 Float32) : Prop := Single.Finite v.x ∧ Single.Finite v.y

instance (v : Vec2 Float32) : Decidable v.IsFinite :=
  inferInstanceAs (Decidable ((parts v.x).isFinite = true ∧ (parts v.y).isFinite = true))

namespace Vec2.IsFinite

variable {v w : Vec2 Float32}

theorem isDefined (h : v.IsFinite) : IsDefined (parts v.x) ∧ IsDefined (parts v.y) := by
  have hdefined {a : Float32} (ha : Single.Finite a) : IsDefined (parts a) := by
    unfold Single.Finite at ha
    cases hp : parts a with
    | notANumber => rw [hp] at ha; cases ha
    | _ => trivial
  exact ⟨hdefined h.1, hdefined h.2⟩

/-- The distance from a finite place is a number that is not negative. -/
theorem isMagnitude_distance (hv : v.IsFinite)
    (hw : IsDefined (parts w.x) ∧ IsDefined (parts w.y)) :
    IsMagnitude (parts (v.distance w)) := by
  have hx : IsDefined (parts (v.x - w.x)) := (isDefined_sub hv.1 hw.1).repack
  have hy : IsDefined (parts (v.y - w.y)) := (isDefined_sub hv.2 hw.2).repack
  have hsum : IsMagnitude (parts ((v.x - w.x) * (v.x - w.x) + (v.y - w.y) * (v.y - w.y))) :=
    (hx.mul_self.repack.add hy.mul_self.repack).repack
  exact hsum.sqrt.repack

theorem isNumber_distance (hv : v.IsFinite)
    (hw : IsDefined (parts w.x) ∧ IsDefined (parts w.y)) : IsNumber (v.distance w) :=
  isNumber_of_isDefined (hv.isMagnitude_distance hw).isDefined

theorem isNumber_half_distance (hv : v.IsFinite) (hw : w.IsFinite) :
    IsNumber (v.distance w / 2.0) := by
  have htwo : parts (2.0 : Float32) = .finite .positive 8388608 (-22) (by decide) := rfl
  refine isNumber_of_isDefined ?_
  rw [parts_div, htwo]
  exact ((hv.isMagnitude_distance hw.isDefined).isDefined.div_finite _ _ _ _).repack

end Vec2.IsFinite

end Cityscape

import Cityscape.Proofs.Scalar.Packing

/-!
# Laws of single-precision numbers

What can be relied on however results are rounded, and also when they overflow.

## Main definitions

* `Single.Null` — a number is a zero or not a number.
* `Single.Finite` — a number is neither infinite nor undefined.

## Main statements

* `Single.null_cross_reverse` — a vector and its reverse span nothing.
* `Single.finite_or_of_le_div` — one of two numbers whose quotient is not negative is finite.
-/

namespace Cityscape.Single

open Float.Model (Format UnpackedFloat)
open Float.Model.UnpackedFloat

/-! ## Parts -/

/-- A result is a zero or not a number. -/
def IsNull : UnpackedFloat → Prop
  | .notANumber => True
  | .zero _ => True
  | .infinity _ => False
  | .finite _ _ _ _ => False

variable {f g : UnpackedFloat}

theorem IsNull.repack (h : IsNull f) : IsNull (repack f) := by
  cases f with
  | notANumber => trivial
  | zero s => rw [repack_zero]; trivial
  | infinity s => cases h
  | finite s m e hm => cases h

theorem isNull_sub_self (f : UnpackedFloat) : IsNull (sub .binary32 f f) := by
  cases f with
  | notANumber => trivial
  | zero s => cases s <;> trivial
  | infinity s => cases s <;> trivial
  | finite s m e hm =>
    simp only [sub, Int.sub_self]
    trivial

theorem IsNull.mul_right (h : IsNull f) (g : UnpackedFloat) : IsNull (mul .binary32 f g) := by
  cases f <;> cases g <;> trivial

theorem IsNull.div (h : IsNull f) (g : UnpackedFloat) : IsNull (div .binary32 f g) := by
  cases f <;> cases g <;> trivial

theorem IsNull.add (hf : IsNull f) (hg : IsNull g) : IsNull (add .binary32 f g) := by
  cases f with
  | notANumber => trivial
  | zero s =>
    cases g with
    | notANumber => trivial
    | zero t => cases s <;> cases t <;> trivial
    | infinity t => cases hg
    | finite t m e hm => cases hg
  | infinity s => cases hf
  | finite s m e hm => cases hf

theorem IsNull.sub (hf : IsNull f) (hg : IsNull g) : IsNull (sub .binary32 f g) := by
  cases f with
  | notANumber => trivial
  | zero s =>
    cases g with
    | notANumber => trivial
    | zero t => cases s <;> cases t <;> trivial
    | infinity t => cases hg
    | finite t m e hm => cases hg
  | infinity s => cases hf
  | finite s m e hm => cases hf

theorem mul_parts_comm (f g : UnpackedFloat) : mul .binary32 f g = mul .binary32 g f := by
  have hsign (s t : Sign) : s * t = t * s := by cases s <;> cases t <;> rfl
  cases f <;> cases g <;> simp only [mul, hsign]
  rw [hsign, Nat.mul_comm, Int.add_comm]

theorem roundWithAccuracy_neg (s : Sign) (m : Nat) (e : Int) (accuracy : Accuracy) :
    roundWithAccuracy .binary32 (-s) m e accuracy =
      (roundWithAccuracy .binary32 s m e accuracy).neg := by
  simp only [roundWithAccuracy]
  split <;> rfl

/-- The exact difference zero is rounded to a zero, and any other one to the opposite of what its
opposite is rounded to. -/
theorem normalize_neg (m : Int) (e : Int) (s : Sign) :
    UnpackedFloat.normalize .binary32 (-m) e s = (UnpackedFloat.normalize .binary32 m e s).neg ∨
      UnpackedFloat.normalize .binary32 m e s = .zero s ∧
        UnpackedFloat.normalize .binary32 (-m) e s = .zero s := by
  rcases Int.lt_trichotomy m 0 with hm | rfl | hm
  · left
    have hlt : compare m 0 = .lt := Int.compare_eq_lt.2 hm
    have hgt : compare (-m) 0 = .gt := Int.compare_eq_gt.2 (by omega)
    simp only [UnpackedFloat.normalize, hlt, hgt]
    exact roundWithAccuracy_neg .negative _ _ _
  · exact .inr ⟨rfl, rfl⟩
  · left
    have hgt : compare m 0 = .gt := Int.compare_eq_gt.2 hm
    have hlt : compare (-m) 0 = .lt := Int.compare_eq_lt.2 (by omega)
    simp only [UnpackedFloat.normalize, hlt, hgt, Int.neg_neg]
    exact roundWithAccuracy_neg .positive _ _ _

theorem mul_parts_neg (f g : UnpackedFloat) : mul .binary32 f g.neg = (mul .binary32 f g).neg := by
  have hsign (s t : Sign) : s * -t = -(s * t) := by cases s <;> cases t <;> rfl
  cases f <;> cases g <;> simp only [mul, neg, hsign]
  exact roundWithAccuracy_neg _ _ _ _

/-- The two differences of two numbers are opposite, or both are zeros or no numbers. -/
theorem sub_parts_reverse (f g : UnpackedFloat) :
    sub .binary32 g f = (sub .binary32 f g).neg ∨
      IsNull (sub .binary32 f g) ∧ IsNull (sub .binary32 g f) := by
  cases f with
  | notANumber => right; cases g <;> trivial
  | zero s =>
    cases g with
    | notANumber => right; trivial
    | zero t => right; cases s <;> cases t <;> trivial
    | infinity t => left; cases t <;> rfl
    | finite t m e hm => left; cases t <;> rfl
  | infinity s =>
    cases g with
    | notANumber => right; trivial
    | zero t => left; rfl
    | infinity t => left; cases s <;> cases t <;> rfl
    | finite t m e hm => left; rfl
  | finite s m e hm =>
    cases g with
    | notANumber => right; trivial
    | zero t => left; rfl
    | infinity t => left; cases t <;> rfl
    | finite t m' e' hm' =>
      simp only [sub]
      rw [Int.min_comm e' e, ← Int.neg_sub]
      obtain h | ⟨hpos, hneg⟩ := normalize_neg
        (s.apply (decreaseExponent m e (min e e')).1 -
          t.apply (decreaseExponent m' e' (min e e')).1)
        (min e e') .positive
      · exact .inl h
      · right
        rw [hpos, hneg]
        exact ⟨trivial, trivial⟩

theorem IsNull.not_lt (h : IsNull f) : ¬ (zero .positive).lt f = true := by
  cases f <;> first | exact Bool.false_ne_true | cases h

theorem isFinite_of_repack (h : (repack f).isFinite = true) : f.isFinite = true := by
  cases f with
  | notANumber => cases h
  | infinity s => rw [repack_infinity] at h; cases h
  | zero s => rfl
  | finite s m e hm => rfl

theorem isFinite_of_mul (h : (mul .binary32 f g).isFinite = true) :
    f.isFinite = true ∧ g.isFinite = true := by
  cases f <;> cases g <;> first | exact ⟨rfl, rfl⟩ | cases h

theorem isFinite_of_sub (h : (sub .binary32 f g).isFinite = true) :
    f.isFinite = true ∧ g.isFinite = true := by
  cases f <;> cases g <;> first | exact ⟨rfl, rfl⟩ | cases h | skip
  case infinity.infinity s t => cases s <;> cases t <;> cases h

theorem isFinite_of_div (h : (div .binary32 f g).isFinite = true) : f.isFinite = true := by
  cases f <;> cases g <;> first | rfl | cases h

theorem div_eq_notANumber (hf : ¬ f.isFinite = true) (hg : ¬ g.isFinite = true) :
    div .binary32 f g = .notANumber := by
  cases f <;> cases g <;> first | rfl | exact absurd rfl hf | exact absurd rfl hg

theorem mul_zero_of_isFinite (h : f.isFinite = true) (s : Sign) :
    ∃ t, mul .binary32 f (.zero s) = .zero t := by
  cases f with
  | zero t => exact ⟨_, rfl⟩
  | finite t m e hm => exact ⟨_, rfl⟩
  | notANumber => cases h
  | infinity t => cases h

/-- Adding a zero changes nothing but the sign of another zero. -/
theorem add_zero_cases (f : UnpackedFloat) (s : Sign) :
    add .binary32 f (.zero s) = f ∨ IsNull f ∧ IsNull (add .binary32 f (.zero s)) := by
  cases f with
  | zero t => exact .inr ⟨trivial, IsNull.add trivial trivial⟩
  | notANumber => exact .inl rfl
  | infinity t => exact .inl rfl
  | finite t m e hm => exact .inl rfl

theorem beq_self (h : f.isFinite = true) : f.beq f = true := by
  cases f with
  | notANumber => cases h
  | infinity s => cases h
  | zero s => rfl
  | finite s m e hm => cases s <;> simp [UnpackedFloat.beq, UnpackedFloat.compare]

/-! ## Numbers -/

/-- A number is a zero or not a number. -/
def Null (a : Float32) : Prop := IsNull (parts a)

/-- A number is neither infinite nor undefined. -/
def Finite (a : Float32) : Prop := (parts a).isFinite = true

variable {a b c d : Float32}

theorem le_iff : a ≤ b ↔ (parts a).le (parts b) = true := decide_eq_true_iff

theorem lt_iff : a < b ↔ (parts a).lt (parts b) = true := decide_eq_true_iff

theorem beq_eq : (a == b) = (parts a).beq (parts b) := rfl

theorem mul_comm (a b : Float32) : a * b = b * a :=
  congrArg (fun f => Float32.ofModel (Float32.Model.pack f)) (mul_parts_comm (parts a) (parts b))

theorem null_sub_self (a : Float32) : Null (a - a) := (isNull_sub_self (parts a)).repack

theorem Null.mul_right (h : Null a) (b : Float32) : Null (a * b) :=
  (IsNull.mul_right h (parts b)).repack

theorem Null.mul_left (h : Null a) (b : Float32) : Null (b * a) := by
  have hmul := IsNull.mul_right h (parts b)
  rw [mul_parts_comm] at hmul
  exact hmul.repack

theorem Null.add (ha : Null a) (hb : Null b) : Null (a + b) := (IsNull.add ha hb).repack

theorem Null.sub (ha : Null a) (hb : Null b) : Null (a - b) := (IsNull.sub ha hb).repack

theorem Null.div (h : Null a) (b : Float32) : Null (a / b) := (IsNull.div h (parts b)).repack

theorem Null.not_pos (h : Null a) : ¬ 0 < a := by
  rw [lt_iff]
  exact IsNull.not_lt h

/-- Adding a zero and taking the number away again leaves a zero, or no number. -/
theorem Null.add_sub (h : Null b) (a : Float32) : Null (a + b - a) := by
  unfold Null at h ⊢
  rw [parts_sub, parts_add]
  cases hb : parts b with
  | notANumber =>
    have hadd : UnpackedFloat.add .binary32 (parts a) .notANumber = .notANumber := by
      cases parts a <;> rfl
    rw [hadd, repack_notANumber]
    refine IsNull.repack ?_
    cases parts a <;> trivial
  | zero s =>
    obtain hadd | ⟨ha, hadd⟩ := add_zero_cases (parts a) s
    · rw [hadd, repack_parts]
      exact (isNull_sub_self _).repack
    · exact (IsNull.sub hadd.repack ha).repack
  | infinity s => rw [hb] at h; cases h
  | finite s m e hm => rw [hb] at h; cases h

/-- Differences of numbers that are both zeros or no numbers, or opposites of each other. -/
theorem sub_reverse_cases (a b : Float32) :
    parts (b - a) = (parts (a - b)).neg ∨ Null (a - b) ∧ Null (b - a) := by
  obtain h | ⟨hab, hba⟩ := sub_parts_reverse (parts a) (parts b)
  · left
    rw [parts_sub, parts_sub, h, repack_neg]
  · exact .inr ⟨hab.repack, hba.repack⟩

/-- A vector and its reverse span nothing. -/
theorem null_cross_reverse (a b c d : Float32) :
    Null ((a - b) * (d - c) - (c - d) * (b - a)) := by
  obtain hx | ⟨hab, hba⟩ := sub_reverse_cases a b
  · obtain hy | ⟨hcd, hdc⟩ := sub_reverse_cases c d
    · have hproducts : parts ((a - b) * (d - c)) = parts ((c - d) * (b - a)) := by
        rw [parts_mul, parts_mul, hx, hy, mul_parts_neg, mul_parts_neg, mul_parts_comm]
      unfold Null
      rw [parts_sub, hproducts]
      exact (isNull_sub_self _).repack
    · exact (hdc.mul_left _).sub (hcd.mul_right _)
  · exact (hab.mul_right _).sub (hba.mul_left _)

theorem Finite.of_mul (h : Finite (a * b)) : Finite a ∧ Finite b :=
  isFinite_of_mul (isFinite_of_repack h)

theorem Finite.of_sub (h : Finite (a - b)) : Finite a ∧ Finite b :=
  isFinite_of_sub (isFinite_of_repack h)

theorem Finite.of_div (h : Finite (a / b)) : Finite a :=
  isFinite_of_div (isFinite_of_repack h)

theorem parts_ne_of_le (h : a ≤ b) : parts b ≠ .notANumber := by
  intro hb
  rw [le_iff, hb] at h
  cases ha : parts a <;> rw [ha] at h <;> cases h

/-- When the quotient of two numbers is not negative, one of them is finite. -/
theorem finite_or_of_le_div (h : 0 ≤ a / b) : Finite a ∨ Finite b := by
  by_cases ha : Finite a
  · exact .inl ha
  by_cases hb : Finite b
  · exact .inr hb
  refine absurd ?_ (parts_ne_of_le h)
  rw [parts_div, div_eq_notANumber ha hb]
  rfl

theorem Null.exists_zero (h : Null a) (hfin : Finite a) : ∃ s, parts a = .zero s := by
  unfold Null at h
  unfold Finite at hfin
  cases hp : parts a with
  | zero s => exact ⟨s, rfl⟩
  | notANumber => rw [hp] at hfin; cases hfin
  | infinity s => rw [hp] at h; cases h
  | finite s m e hm => rw [hp] at h; cases h

/-- A zero that can be compared is finite. -/
theorem Null.finite_of_le (ha : Null a) (h : b ≤ a) : Finite a := by
  have hnan := parts_ne_of_le h
  unfold Null at ha
  unfold Finite
  cases hp : parts a with
  | notANumber => exact absurd hp hnan
  | zero s => rfl
  | infinity s => rw [hp] at ha; cases ha
  | finite s m e hm => rfl

/-- The product of a finite number with a zero is finite. -/
theorem Finite.mul_null (ha : Finite a) (hb : Null b) (hfin : Finite b) : Finite (a * b) := by
  obtain ⟨s, hs⟩ := hb.exists_zero hfin
  obtain ⟨t, ht⟩ := mul_zero_of_isFinite ha s
  unfold Finite
  rw [parts_mul, hs, ht, repack_zero]
  rfl

/-- Adding a zero to a finite number does not change it. -/
theorem Finite.add_null_beq (ha : Finite a) (hb : Null b) (hfin : Finite b) :
    (a + b == a) = true := by
  obtain ⟨s, hs⟩ := hb.exists_zero hfin
  unfold Finite at ha
  rw [beq_eq, parts_add, hs]
  cases hp : parts a with
  | zero t => cases s <;> cases t <;> rfl
  | finite t m e hm =>
    have hadd : UnpackedFloat.add .binary32 (parts a) (.zero s) = parts a := by
      rw [hp]
      rfl
    rw [← hp, hadd, repack_parts]
    exact beq_self ha
  | notANumber => rw [hp] at ha; cases ha
  | infinity s => rw [hp] at ha; cases ha

end Cityscape.Single

import Cityscape.Proofs.Scalar.Countdown

/-!
# Opposite numbers

Arithmetic treats a number and its opposite alike, except that a sum that comes out as zero is the
same zero for both. So two computations that differ in signs only give results that are opposite up
to the sign of a zero, and whatever looks at their magnitudes gives the same answer for both.

## Main definitions

* `Single.Opposite` — two numbers are opposite, or both are zeros.
* `Vec2.Opposite` — the same for the components of vectors.

## Main statements

* `Single.Opposite.approximately` — the test for nearly equal numbers is indifferent to signs.
* `Vec2.Opposite.normalizeOrZero` — opposite vectors have opposite directions.
-/

namespace Cityscape

namespace Single

open Float.Model (Format UnpackedFloat)
open Float.Model.UnpackedFloat

/-! ## Parts -/

/-- Two results are opposite, or both are zeros. -/
def IsOpposite (f g : UnpackedFloat) : Prop := g = f.neg ∨ ∃ s t, f = .zero s ∧ g = .zero t

variable {f g f' g' : UnpackedFloat}

theorem neg_neg_parts (f : UnpackedFloat) : f.neg.neg = f := by
  have hsign (s : Sign) : - -s = s := by cases s <;> rfl
  cases f <;> simp only [neg, hsign]

theorem IsOpposite.repack (h : IsOpposite f g) : IsOpposite (repack f) (repack g) := by
  obtain rfl | ⟨s, t, rfl, rfl⟩ := h
  · exact .inl (repack_neg f)
  · exact .inr ⟨s, t, repack_zero s, repack_zero t⟩

theorem add_parts_comm (f g : UnpackedFloat) : add .binary32 f g = add .binary32 g f := by
  cases f <;> cases g <;> simp only [add]
  case zero.zero s t => cases s <;> cases t <;> rfl
  case infinity.infinity s t => cases s <;> cases t <;> rfl
  case finite.finite s m e hm t m' e' hm' => rw [Int.min_comm e' e, Int.add_comm]

theorem apply_neg (s : Sign) (n : Int) : (-s).apply n = -s.apply n := by
  cases s
  · exact (Int.neg_neg n).symm
  · rfl

/-- The opposites of two numbers have the opposite sum, unless the sum is a zero. -/
theorem add_parts_neg (f g : UnpackedFloat) :
    IsOpposite (add .binary32 f g) (add .binary32 f.neg g.neg) := by
  cases f with
  | notANumber => exact .inl rfl
  | zero s =>
    cases g with
    | zero t => right; cases s <;> cases t <;> exact ⟨_, _, rfl, rfl⟩
    | notANumber | infinity | finite => exact .inl rfl
  | infinity s =>
    cases g with
    | infinity t => left; cases s <;> cases t <;> rfl
    | notANumber | zero | finite => exact .inl rfl
  | finite s m e hm =>
    cases g with
    | finite t m' e' hm' =>
      simp only [add, neg, apply_neg, ← Int.neg_add]
      obtain hneg | ⟨hpos, hneg⟩ := normalize_neg
        (s.apply (decreaseExponent m e (min e e')).1 +
          t.apply (decreaseExponent m' e' (min e e')).1)
        (min e e') .positive
      · exact .inl hneg
      · exact .inr ⟨_, _, hpos, hneg⟩
    | notANumber | zero | infinity => exact .inl rfl

namespace IsOpposite

theorem add_zero (h : IsOpposite f f') (s t : Sign) :
    IsOpposite (add .binary32 f (.zero s)) (add .binary32 f' (.zero t)) := by
  have hzeros (r u : Sign) : IsOpposite (add .binary32 (.zero r) (.zero s))
      (add .binary32 (.zero u) (.zero t)) := by
    right
    cases r <;> cases s <;> cases u <;> cases t <;> exact ⟨_, _, rfl, rfl⟩
  obtain rfl | ⟨r, u, rfl, rfl⟩ := h
  · cases f with
    | zero r => exact hzeros r (-r)
    | notANumber | infinity | finite => exact .inl rfl
  · exact hzeros r u

theorem add (hf : IsOpposite f f') (hg : IsOpposite g g') :
    IsOpposite (add .binary32 f g) (add .binary32 f' g') := by
  obtain rfl | ⟨s, t, rfl, rfl⟩ := id hg
  · obtain rfl | ⟨s, t, rfl, rfl⟩ := hf
    · exact add_parts_neg f g
    · rw [add_parts_comm, add_parts_comm (.zero t)]
      exact hg.add_zero s t
  · exact hf.add_zero s t

theorem mul_left (f : UnpackedFloat) (h : IsOpposite g g') :
    IsOpposite (mul .binary32 f g) (mul .binary32 f g') := by
  obtain rfl | ⟨s, t, rfl, rfl⟩ := h
  · exact .inl (mul_parts_neg f g)
  · cases f with
    | notANumber | infinity => exact .inl rfl
    | zero | finite => exact .inr ⟨_, _, rfl, rfl⟩

/-- The square of a number is that of its opposite. -/
theorem mul_self (h : IsOpposite f f') : mul .binary32 f' f' = mul .binary32 f f := by
  obtain rfl | ⟨s, t, rfl, rfl⟩ := h
  · rw [mul_parts_neg, mul_parts_comm, mul_parts_neg, neg_neg_parts]
  · cases s <;> cases t <;> rfl

theorem abs (h : IsOpposite f f') : f'.abs = f.abs := by
  obtain rfl | ⟨s, t, rfl, rfl⟩ := h
  · cases f <;> rfl
  · rfl

theorem neg (h : IsOpposite f f') : IsOpposite f.neg f'.neg := by
  obtain rfl | ⟨s, t, rfl, rfl⟩ := h
  · exact .inl rfl
  · exact .inr ⟨-s, -t, rfl, rfl⟩

end IsOpposite

/-- A difference is the sum with the opposite number. -/
theorem sub_parts_eq_add_neg (f g : UnpackedFloat) :
    sub .binary32 f g = add .binary32 f g.neg := by
  cases f <;> cases g <;> simp only [sub, add, UnpackedFloat.neg, apply_neg, Int.sub_eq_add_neg]

theorem IsOpposite.sub (hf : IsOpposite f f') (hg : IsOpposite g g') :
    IsOpposite (sub .binary32 f g) (sub .binary32 f' g') := by
  rw [sub_parts_eq_add_neg, sub_parts_eq_add_neg]
  exact hf.add hg.neg

/-- The two differences of two numbers are opposite. -/
theorem isOpposite_sub (f g : UnpackedFloat) :
    IsOpposite (sub .binary32 f g) (sub .binary32 g f) := by
  have hf : IsOpposite f f.neg := .inl rfl
  have hg : IsOpposite g.neg g := .inl (neg_neg_parts g).symm
  rw [sub_parts_eq_add_neg, sub_parts_eq_add_neg, add_parts_comm g]
  exact hf.add hg

/-! ## Numbers -/

/-- Two numbers are opposite, or both are zeros. -/
def Opposite (a b : Float32) : Prop := IsOpposite (parts a) (parts b)

variable {a b a' b' : Float32}

theorem opposite_sub (a b : Float32) : Opposite (a - b) (b - a) :=
  (isOpposite_sub (parts a) (parts b)).repack

namespace Opposite

theorem add (ha : Opposite a a') (hb : Opposite b b') : Opposite (a + b) (a' + b') :=
  (IsOpposite.add ha hb).repack

theorem mul_left (c : Float32) (h : Opposite a a') : Opposite (c * a) (c * a') :=
  (IsOpposite.mul_left (parts c) h).repack

theorem mul_right (h : Opposite a a') (c : Float32) : Opposite (a * c) (a' * c) := by
  rw [mul_comm a, mul_comm a']
  exact h.mul_left c

theorem mul_self (h : Opposite a a') : a' * a' = a * a :=
  parts_injective (congrArg repack (IsOpposite.mul_self h))

theorem abs_sub (ha : Opposite a a') (hb : Opposite b b') : (a' - b').abs = (a - b).abs :=
  parts_injective (congrArg repack (IsOpposite.sub ha hb).repack.abs)

/-- Whether numbers are nearly equal is not changed by changing the signs of both. -/
theorem approximately (ha : Opposite a a') (hb : Opposite b b') :
    Scalar.approximately a' b' = Scalar.approximately a b := by
  have hdistance : Scalar.abs (a' - b') = Scalar.abs (a - b) := ha.abs_sub hb
  rw [Scalar.approximately, Scalar.approximately, hdistance]

end Opposite

end Single

/-! ## Vectors -/

namespace Vec2

/-- The components of two vectors are opposite, or both zeros. -/
structure Opposite (v w : Vec2 Float32) : Prop where
  x : Single.Opposite v.x w.x
  y : Single.Opposite v.y w.y

variable {v w : Vec2 Float32}

theorem opposite_sub (v w : Vec2 Float32) : Opposite (v - w) (w - v) :=
  ⟨Single.opposite_sub v.x w.x, Single.opposite_sub v.y w.y⟩

namespace Opposite

theorem dot_left (u : Vec2 Float32) (h : Opposite v w) : Single.Opposite (u.dot v) (u.dot w) :=
  (h.x.mul_left u.x).add (h.y.mul_left u.y)

theorem length (h : Opposite v w) : w.length = v.length := by
  simp only [Vec2.length, dot, h.x.mul_self, h.y.mul_self]

/-- Opposite vectors have opposite directions, or none. -/
theorem normalizeOrZero (h : Opposite v w) : Opposite v.normalizeOrZero w.normalizeOrZero := by
  have hzero : Single.Opposite 0 0 := .inr ⟨_, _, rfl, rfl⟩
  unfold Vec2.normalizeOrZero
  rw [h.length]
  dsimp only
  split
  · exact ⟨h.x.mul_right _, h.y.mul_right _⟩
  · exact ⟨hzero, hzero⟩

end Opposite

end Vec2

end Cityscape

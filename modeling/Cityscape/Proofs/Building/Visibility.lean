import Cityscape.Grammar.Component
import Cityscape.Proofs.Scalar.Whole

/-!
# What is seen from the street

A side of a box is seen from the street when it faces ahead and lies at depth zero. This holds for
the first side of a box that stands at the origin, not for the sides that are turned by a quarter
and not for those behind.

## Main definitions

* `Trigonometry.Accurate` — what is assumed of sine and cosine.

## Main statements

* `Grammar.Shape.isVisible_front`, `Grammar.Shape.isVisible_side`, `Grammar.Shape.isVisible_behind`
  — which sides are seen.
-/

namespace Cityscape

open Single Trigonometry

/-- What can be relied on when the sides of a box are turned: sine and cosine are exact at zero and
close to their values at an eighth of a turn. -/
structure Trigonometry.Accurate [Trigonometry Float32] : Prop where
  degree : (degree : Float32) = Float32.ofBits 0x3c8efa35
  sin_zero : sin (0 : Float32) = 0
  cos_zero : cos (0 : Float32) = 1
  sin_eighth : Within (-0.71875) (-0.6875) (sin (radians (-90.0) * 0.5 : Float32))
  cos_eighth : Within 0.6875 0.71875 (cos (radians (-90.0) * 0.5 : Float32))

/-- Numbers whose difference lies below the opposite of the tolerance are told apart. -/
theorem approximately_eq_false {a b low high : Float32} (h : Within low (-high) (a - b))
    (hhigh : Finite high) (htolerance : Finite Scalar.tolerance ∧ Scalar.tolerance < high) :
    Scalar.approximately a b = false := by
  obtain ⟨habs, habsReal⟩ := toReal_abs h.finite
  refine decide_eq_false fun hle => ?_
  have hle' := (le_iff_toReal habs htolerance.1).1 hle
  have hlt := (lt_iff_toReal htolerance.1 hhigh).1 htolerance.2
  have hdifference := h.toReal_mem.2
  rw [(toReal_neg hhigh).2] at hdifference
  rw [habsReal] at hle'
  have := neg_le_abs (toReal (a - b))
  linarith

variable [Trigonometry Float32]

namespace Rotation

variable {v : Vec3 Float32}

theorem radians_zero (h : Accurate) : (radians 0 * 0.5 : Float32) = 0 := by
  rw [radians, h.degree]
  decide +kernel

/-- A box that is not turned faces straight ahead. -/
theorem ofAngles_zero (h : Accurate) (hx : v.x = 0) (hy : v.y = 0) (hz : v.z = 0) :
    ofAngles v = ⟨0, 0, 0, 1⟩ := by
  simp only [ofAngles, hx, hy, hz, radians_zero h, h.sin_zero, h.cos_zero, mk.injEq]
  decide +kernel

/-- A box that was turned to the side. -/
theorem ofAngles_side (h : Accurate) (hx : v.x = 0) (hy : v.y = -90.0) (hz : v.z = 0) :
    Within 0 0 (ofAngles v).x ∧ Within (-0.71875) (-0.6875) (ofAngles v).y ∧
      Within 0 0 (ofAngles v).z ∧ Within 0.6875 0.71875 (ofAngles v).w := by
  have hs := h.sin_eighth
  have hc := h.cos_eighth
  simp only [ofAngles, hx, hy, hz, radians_zero h, h.sin_zero, h.cos_zero]
  have hcc := hc.mul_one
  have hcs := Within.mul_zero hc.finite .zero
  have hsc := hs.mul_one
  have hss := Within.mul_zero hs.finite .zero
  refine ⟨?_, ?_, ?_, ?_⟩
  · exact hss.one_mul.add_zero (.zero_mul .zero hcc.finite)
  · exact hsc.one_mul.sub_zero (.zero_mul .zero hcs.finite)
  · exact hcs.one_mul.sub_zero (.zero_mul .zero hsc.finite)
  · exact hcc.one_mul.add_zero (.zero_mul .zero hss.finite)

omit [Trigonometry Float32] in
/-- What is turned to the side does not face ahead. -/
theorem facing_side {q : Rotation Float32} (hx : Within 0 0 q.x)
    (hy : Within (-0.71875) (-0.6875) q.y) (hz : Within 0 0 q.z) (hw : Within 0.6875 0.71875 q.w) :
    Within (-0.5) 0.5 ((q.apply (.unit .z)).normalize.dot (.unit .z)) := by
  have hone : Finite 1 := toReal_one.1
  have hww : Within 0.46875 0.53125 (q.w * q.w) := hw.mul hw (by decide +kernel)
  have hyy : Within 0.46875 0.53125 (q.y * q.y) := hy.mul hy (by decide +kernel)
  have hdot : Within 0.46875 0.53125 (q.x * q.x + q.y * q.y + q.z * q.z) :=
    (Within.zero_add (.mul_zero hx.finite hx) hyy).add_zero (.mul_zero hz.finite hz)
  have hk : Within (-0.0625) 0.0625 (q.w * q.w - (q.x * q.x + q.y * q.y + q.z * q.z)) :=
    hww.sub hdot (by decide +kernel)
  have hturn : Within 1.375 1.4375 (q.w * 2.0) :=
    hw.mul (.refl (a := 2.0) (by decide +kernel)) (by decide +kernel)
  have hproject : Within 0 0 ((0 * q.x + 0 * q.y + 1 * q.z) * 2.0) :=
    .zero_mul (((Within.zero_mul .zero hx.finite).add_zero (.zero_mul .zero hy.finite)).add_zero
      hz.one_mul) (by decide +kernel)
  -- The three components after the turn.
  have hahead : Within (-0.0625) 0.0625 (q.apply (.unit .z)).z :=
    (hk.one_mul.add_zero (.zero_mul hz hproject.finite)).add_zero (.zero_mul
      ((Within.mul_zero hx.finite .zero).sub_zero (.zero_mul .zero hy.finite)) hturn.finite)
  have hup : Within 0 0 (q.apply (.unit .z)).y :=
    ((Within.zero_mul .zero hk.finite).add_zero (.mul_zero hy.finite hproject)).add_zero (.zero_mul
      ((Within.mul_zero hz.finite .zero).sub_zero hx.one_mul) hturn.finite)
  have haside : Within (-1.0625) (-0.9375) (q.apply (.unit .z)).x :=
    .zero_add ((Within.zero_mul .zero hk.finite).add_zero (.zero_mul hx hproject.finite))
      ((hy.mul_one.sub_zero (.zero_mul .zero hz.finite)).mul hturn (by decide +kernel))
  generalize q.apply (.unit .z) = r at hahead hup haside
  have hxx : Within 0.875 1.1875 (r.x * r.x) := haside.mul haside (by decide +kernel)
  have hzz : Within (-0.0625) 0.0625 (r.z * r.z) := hahead.mul hahead (by decide +kernel)
  have hsquare : Within 0.75 1.25 (r.dot r) :=
    (hxx.add_zero (.mul_zero hup.finite hup)).add hzz (by decide +kernel)
  have hlength : Within 0.75 1.25 r.length := hsquare.sqrt (by decide +kernel) (by decide +kernel)
  have hscale : Within 0.75 1.5 (1 / r.length) :=
    (Within.refl hone).div hlength (by decide +kernel) (by decide +kernel)
  have hxs : Within (-2) 0 (r.x * (1 / r.length)) := haside.mul hscale (by decide +kernel)
  have hys : Within 0 0 (r.y * (1 / r.length)) := .zero_mul hup hscale.finite
  have hzs : Within (-0.5) 0.5 (r.z * (1 / r.length)) := hahead.mul hscale (by decide +kernel)
  exact .zero_add ((Within.mul_zero hxs.finite .zero).add_zero (.mul_zero hys.finite .zero))
    hzs.mul_one

end Rotation

/-! ## Visibility -/

open Grammar

namespace Grammar.Shape

variable {s : Shape Float32}

theorem isVisible_front (h : Accurate) (hx : s.rotation.x = 0) (hy : s.rotation.y = 0)
    (hz : s.rotation.z = 0) (hposition : Within 0 0 s.scope.position.z)
    (hflat : s.scope.size.z = 0) : s.isVisible = true := by
  have hfacing : Scalar.approximately (((⟨0, 0, 0, 1⟩ : Rotation Float32).apply
      (.unit .z)).normalize.dot (.unit .z)) 1 = true := by decide +kernel
  have hzero : (s.scope.position.z == 0) = true :=
    (beq_iff_toReal hposition.finite finite_zero).2 hposition.toReal_eq_zero
  have hself : (s.scope.size.z == 0) = true := by
    rw [hflat]
    decide +kernel
  simp only [isVisible, orientation, Rotation.ofAngles_zero h hx hy hz, hfacing, hzero, hself,
    Bool.and_true]

theorem isVisible_side (h : Accurate) (hx : s.rotation.x = 0) (hy : s.rotation.y = -90.0)
    (hz : s.rotation.z = 0) : s.isVisible = false := by
  obtain ⟨hqx, hqy, hqz, hqw⟩ := Rotation.ofAngles_side h hx hy hz
  have hfacing := Rotation.facing_side hqx hqy hqz hqw
  have hdifference : Within (-1.5) (-0.5)
      (((Rotation.ofAngles s.rotation).apply (.unit .z)).normalize.dot (.unit .z) - 1) :=
    hfacing.sub (.refl toReal_one.1) (by decide +kernel)
  have hfar := approximately_eq_false hdifference (by decide +kernel) (by decide +kernel)
  simp only [isVisible, orientation, hfar, Bool.false_and]

theorem isVisible_behind (h : 0 < s.scope.position.z) (hfin : Finite s.scope.position.z) :
    s.isVisible = false := by
  have hne : (s.scope.position.z == 0) = false := by
    rw [Bool.eq_false_iff, ne_eq, beq_iff_toReal hfin finite_zero]
    exact (Within.toReal_pos hfin h).ne'
  simp only [isVisible, hne, Bool.and_false, Bool.false_and]

end Grammar.Shape

end Cityscape

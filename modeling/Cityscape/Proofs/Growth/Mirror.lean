import Mathlib
import Cityscape.Growth.Steering
import Cityscape.Proofs.Scalar.Nearest

/-!
# Fans in a mirror

The rays of a fan start at one edge of its angle and end a step before the other one. So the fan is
not its own mirror image: a ray that is not the first has another one as its image, but what is the
image of the first ray is not looked along. A road that is led by the mirror image of what leads
another therefore turns to the mirror image only if the first ray does not decide.

Directions are real numbers here, so that the rays have exact mirror images.

## Main definitions

* `Vec2.flip`, `Grid.MirrorsIn` — mirror images of directions and of grids about a row.
* `Steering.ray` — the directions of a fan.
* `Steering.Covers` — a ray whose samples fall into the grid and off the boundaries of rows.
* `Steering.Leads` — what has been found after some of the rays.

## Main statements

* `Steering.flip_ray` — the rays and their images.
* `Steering.rayWeight_eq_sum` — the weight of a ray is a sum.
* `Steering.rayWeight_flip` — the image of a ray weighs the same in the image of the grid.
* `Steering.turn_spec` — a fan turns to the first of the heaviest rays.
* `Steering.turn_flip_iff` — when the mirror image of a grid makes a road turn to the mirror image.
-/

namespace Cityscape

/-! ## Mirror images -/

/-- The mirror image of a direction about the first axis. -/
noncomputable def Vec2.flip (d : Vec2 ℝ) : Vec2 ℝ := ⟨d.x, -d.y⟩

@[simp]
theorem Vec2.flip_flip (d : Vec2 ℝ) : d.flip.flip = d := by
  cases d
  simp [flip]

namespace Grid

/-- Cells that are mirror images of each other about a row hold the same number. -/
def MirrorsIn (row : ℤ) (g g' : Grid ℝ) : Prop :=
  ∀ x y y' : ℕ, (y + y' : ℤ) = 2 * row → x < g.width → y < g.height → x < g'.width →
    y' < g'.height → g.get x y = g'.get x y'

variable {g g' : Grid ℝ} {p p' : Vec2 ℝ} {v v' : ℝ} {row k l : ℤ}

/-- A place that has a number falls into a cell, and the number is that of the cell. -/
theorem exists_get_of_valueAt (h : g.valueAt p = .ok (some v)) (hx : Scalar.round p.x = k)
    (hy : Scalar.round p.y = l) :
    ∃ x y : ℕ, (k = x ∧ x < g.width) ∧ (l = y ∧ y < g.height) ∧ g.get x y = .ok v := by
  have hcell : g.cell p = if (k : ℝ) < 0 ∨ (l : ℝ) < 0 ∨ (g.width : ℝ) ≤ k ∨ (g.height : ℝ) ≤ l
      then none else some (k.toNat, l.toNat) := by
    rw [← whole_real_intCast, ← whole_real_intCast, ← hx, ← hy]
    rfl
  unfold valueAt at h
  rw [hcell] at h
  split at h
  next x y hsome =>
    split at hsome
    · cases hsome
    next hin =>
      cases hsome
      simp only [not_or, not_lt, not_le] at hin
      norm_cast at hin
      refine ⟨k.toNat, l.toNat, by omega, by omega, ?_⟩
      cases hget : g.get k.toNat l.toNat with
      | error fault => rw [hget] at h; cases h
      | ok u => rw [hget] at h; cases h; rfl
  · cases h

theorem valueAt_natCast {x y : ℕ} (hx : x < g.width) (hy : y < g.height) :
    g.valueAt ⟨x, y⟩ = (g.get x y).map some := by
  have hcell : g.cell ⟨x, y⟩ = some (x, y) := by
    have hround : Vec2.round (⟨x, y⟩ : Vec2 ℝ) = ⟨(x : ℤ), (y : ℤ)⟩ := by
      simp only [Vec2.round, round_real_natCast, Int.cast_natCast]
    unfold cell
    rw [hround]
    refine (if_neg ?_).trans ?_
    · simp only [not_or, not_lt, not_le]
      exact ⟨by positivity, by positivity, Nat.cast_lt.2 hx, Nat.cast_lt.2 hy⟩
    · rw [whole_real_intCast, whole_real_intCast]
      rfl
  unfold valueAt
  rw [hcell]

/-- Off the boundaries of rows, places that are mirror images of each other have the same number in
grids that are. -/
theorem valueAt_flip (hmirror : g.MirrorsIn row g') (hx : p'.x = p.x) (hy : p.y + p'.y = 2 * row)
    (hclear : ∀ k : ℤ, p.y ≠ k + 1 / 2) (h : g.valueAt p = .ok (some v))
    (h' : g'.valueAt p' = .ok (some v')) : v = v' := by
  obtain ⟨k, hk⟩ := exists_round_real p.x
  -- A half is rounded away from zero, which is not mirrored: hence off the boundaries.
  have hnear : |p.y - round p.y| < 1 / 2 := by
    refine (abs_sub_round p.y).lt_of_ne fun heq => ?_
    obtain heq | heq := (abs_eq (by norm_num)).1 heq
    · exact hclear (round p.y) (by linarith)
    · exact hclear (round p.y - 1) (by push_cast; linarith)
  have hnear' : |p'.y - (2 * row - round p.y : ℤ)| < 1 / 2 := by
    rw [abs_lt] at hnear ⊢
    push_cast
    constructor <;> linarith
  obtain ⟨x, y, ⟨hxk, hxlt⟩, ⟨hyl, hylt⟩, hget⟩ :=
    exists_get_of_valueAt h hk (round_real_of_abs_lt hnear)
  obtain ⟨x', y', ⟨hxk', hxlt'⟩, ⟨hyl', hylt'⟩, hget'⟩ :=
    exists_get_of_valueAt h' (by rw [hx, hk]) (round_real_of_abs_lt hnear')
  obtain rfl : x = x' := by omega
  have hsame := hmirror x y y' (by omega) hxlt hylt hxlt' hylt'
  rw [hget, hget'] at hsame
  exact Except.ok.inj hsame

end Grid

namespace Steering

/-! ## Weights -/

/-- How many samples are taken along a ray. -/
noncomputable def samples (length : ℝ) : ℕ :=
  Min.min (Scalar.whole (Scalar.max length 0)) halfWordLimit

/-- A sample along a ray. -/
noncomputable def sample (start direction : Vec2 ℝ) (j : ℕ) : Vec2 ℝ :=
  start + direction.scale (Scalar.ofNat j)

/-- The samples of a ray fall into the grid, and none on the boundary between two rows. -/
structure Covers (g : Grid ℝ) (start direction : Vec2 ℝ) (length : ℝ) : Prop where
  inside : ∀ j < samples length, ∃ v, g.valueAt (sample start direction j) = .ok (some v)
  clear : ∀ j < samples length, ∀ k : ℤ, (sample start direction j).y ≠ k + 1 / 2

variable {g g' : Grid ℝ} {start direction : Vec2 ℝ} {length : ℝ} {row : ℤ}

theorem addDensities_eq_sum {density : ℕ → ℝ} {steps j : ℕ}
    (h : ∀ i < j + steps, g.valueAt (sample start direction i) = .ok (some (density i)))
    (weight : ℝ) :
    addDensities g start direction length steps j weight =
      .ok (weight + ∑ i ∈ Finset.range steps, density (j + i) * (1 - (j + i : ℕ) / length)) := by
  induction steps generalizing j weight with
  | zero => simp [addDensities]
  | succ steps ih =>
    have hvalue : g.valueAt (start + direction.scale (Scalar.ofNat j)) = .ok (some (density j)) :=
      h j (by omega)
    rw [addDensities, hvalue, Finset.sum_range_succ']
    refine (ih (fun i hi => h i (by omega)) _).trans (congrArg Except.ok ?_)
    have hrest :
        ∑ i ∈ Finset.range steps, density (j + (i + 1)) * (1 - (j + (i + 1) : ℕ) / length) =
          ∑ i ∈ Finset.range steps, density (j + 1 + i) * (1 - (j + 1 + i : ℕ) / length) :=
      Finset.sum_congr rfl fun i _ => by rw [add_assoc j 1 i, add_comm 1 i]
    have hfirst : (Scalar.ofNat j : ℝ) = (j + 0 : ℕ) := rfl
    rw [hrest, hfirst, add_zero]
    ring

/-- The weight of a ray is the sum of the densities along it, each discounted with its distance. -/
theorem rayWeight_eq_sum {density : ℕ → ℝ}
    (h : ∀ j < samples length, g.valueAt (sample start direction j) = .ok (some (density j))) :
    rayWeight g start direction length =
      .ok (∑ j ∈ Finset.range (samples length), density j * (1 - j / length)) := by
  have hall : ∀ i < 0 + samples length,
      g.valueAt (sample start direction i) = .ok (some (density i)) := by rwa [zero_add]
  refine (addDensities_eq_sum hall 0).trans (congrArg Except.ok ?_)
  simp only [zero_add]

theorem Covers.exists_rayWeight (h : Covers g start direction length) :
    ∃ weight, rayWeight g start direction length = .ok weight := by
  choose! density hdensity using h.inside
  exact ⟨_, rayWeight_eq_sum hdensity⟩

/-- The mirror image of a ray weighs the same in the mirror image of the grid. -/
theorem rayWeight_flip (hmirror : g.MirrorsIn row g') (hstart : start.y = row)
    (h : Covers g start direction length) (h' : Covers g' start direction.flip length) :
    rayWeight g' start direction.flip length = rayWeight g start direction length := by
  choose! density hdensity using h.inside
  choose! density' hdensity' using h'.inside
  rw [rayWeight_eq_sum hdensity, rayWeight_eq_sum hdensity']
  refine congrArg Except.ok (Finset.sum_congr rfl fun j hj => ?_)
  have hj := Finset.mem_range.1 hj
  have hy : (sample start direction j).y + (sample start direction.flip j).y = 2 * row := by
    have hplace : (sample start direction j).y = start.y + direction.y * j := rfl
    have himage : (sample start direction.flip j).y = start.y + -direction.y * j := rfl
    rw [hplace, himage, hstart]
    ring
  have hx : (sample start direction.flip j).x = (sample start direction j).x := rfl
  rw [Grid.valueAt_flip hmirror hx hy (h.clear j hj) (hdensity j hj) (hdensity' j hj)]

/-! ## Rays -/

/-- The directions of a fan around a heading, over a number of rays and an angle. -/
noncomputable def ray (heading : Vec2 ℝ) (rays : ℕ) (angle : ℝ) (i : ℕ) : Vec2 ℝ :=
  heading.rotate (-angle / 2.0 + angle / Scalar.ofNat rays * Scalar.ofNat i)

/-- The direction along the first axis. -/
noncomputable def ahead : Vec2 ℝ := ⟨1, 0⟩

theorem flip_ahead : ahead.flip = ahead := by
  simp [ahead, Vec2.flip]

theorem rotate_ahead (degrees : ℝ) : ahead.rotate degrees =
    ⟨Real.cos (Trigonometry.radians degrees), -Real.sin (Trigonometry.radians degrees)⟩ := by
  have hrotate : ahead.rotate degrees =
      ⟨1 * Real.cos (Trigonometry.radians degrees) + 0 * Real.sin (Trigonometry.radians degrees),
        -1 * Real.sin (Trigonometry.radians degrees) +
          0 * Real.cos (Trigonometry.radians degrees)⟩ := rfl
  rw [hrotate]
  simp

/-- The mirror image of a ray is the one that comes as long before the other edge of the fan: for
the first ray this is the other edge, which is none of the rays. -/
theorem flip_ray {rays i : ℕ} (hrays : 0 < rays) (hi : i ≤ rays) (angle : ℝ) :
    (ray ahead rays angle i).flip = ray ahead rays angle (rays - i) := by
  have hcount : (rays : ℝ) ≠ 0 := by positivity
  have hangle : -angle / 2.0 + angle / Scalar.ofNat rays * Scalar.ofNat (rays - i) =
      -(-angle / 2.0 + angle / Scalar.ofNat rays * Scalar.ofNat i) := by
    change -angle / 2.0 + angle / (rays : ℝ) * ((rays - i : ℕ) : ℝ) =
      -(-angle / 2.0 + angle / (rays : ℝ) * (i : ℝ))
    have htwo : (2.0 : ℝ) = 2 := by norm_num
    rw [Nat.cast_sub hi, htwo]
    field_simp
    ring
  unfold ray
  rw [hangle, rotate_ahead, rotate_ahead, Trigonometry.radians_neg, Real.cos_neg, Real.sin_neg]
  rfl

theorem ray_zero_ne_flip (rays : ℕ) {angle : ℝ} (hangle : 0 < angle) (hless : angle < 360) :
    ray ahead rays angle 0 ≠ (ray ahead rays angle 0).flip := by
  have hedge : -angle / 2.0 + angle / Scalar.ofNat rays * Scalar.ofNat 0 = -(angle / 2) := by
    change -angle / 2.0 + angle / (rays : ℝ) * ((0 : ℕ) : ℝ) = -(angle / 2)
    norm_num
    ring
  have hsin : 0 < Real.sin (Trigonometry.radians (angle / 2)) := by
    rw [Trigonometry.radians_real]
    apply Real.sin_pos_of_pos_of_lt_pi
    · positivity
    · nlinarith [Real.pi_pos]
  unfold ray
  rw [hedge, rotate_ahead, Trigonometry.radians_neg, Real.sin_neg, neg_neg]
  intro h
  have hy := congrArg Vec2.y h
  simp only [Vec2.flip] at hy
  linarith

/-! ## The heaviest ray -/

/-- What has been found after some rays: the first of the heaviest ones, or the direction that was
there before if all are empty. -/
structure Leads (weight : ℕ → ℝ) (ray : ℕ → Vec2 ℝ) (heading : Vec2 ℝ) (seen : ℕ) (best : Vec2 ℝ)
    (heaviest : ℝ) : Prop where
  bound : ∀ i < seen, weight i ≤ heaviest
  found : heaviest = 0 ∧ best = heading ∨
    ∃ i < seen, best = ray i ∧ heaviest = weight i ∧ 0 < weight i ∧ ∀ j < i, weight j < weight i

namespace Leads

variable {weight : ℕ → ℝ} {ray : ℕ → Vec2 ℝ} {heading best : Vec2 ℝ} {seen : ℕ} {heaviest : ℝ}

theorem init (weight : ℕ → ℝ) (ray : ℕ → Vec2 ℝ) (heading : Vec2 ℝ) :
    Leads weight ray heading 0 heading 0 :=
  ⟨fun _ h => absurd h (Nat.not_lt_zero _), .inl ⟨rfl, rfl⟩⟩

theorem nonneg (h : Leads weight ray heading seen best heaviest) : 0 ≤ heaviest := by
  obtain ⟨rfl, -⟩ | ⟨i, -, -, rfl, hpos, -⟩ := h.found
  · exact le_rfl
  · exact hpos.le

/-- A heavier ray takes the lead. -/
theorem step_of_lt (h : Leads weight ray heading seen best heaviest)
    (hlt : heaviest < weight seen) :
    Leads weight ray heading (seen + 1) (ray seen) (weight seen) := by
  have hbelow (i : ℕ) (hi : i < seen) : weight i < weight seen := (h.bound i hi).trans_lt hlt
  refine ⟨fun i hi => ?_, .inr ⟨seen, by omega, rfl, rfl, h.nonneg.trans_lt hlt, hbelow⟩⟩
  obtain hi | rfl := Nat.lt_succ_iff_lt_or_eq.1 hi
  · exact (hbelow i hi).le
  · exact le_rfl

theorem step_of_le (h : Leads weight ray heading seen best heaviest)
    (hle : weight seen ≤ heaviest) : Leads weight ray heading (seen + 1) best heaviest := by
  refine ⟨fun i hi => ?_, ?_⟩
  · obtain hi | rfl := Nat.lt_succ_iff_lt_or_eq.1 hi
    · exact h.bound i hi
    · exact hle
  · obtain hnone | ⟨i, hi, hlead⟩ := h.found
    · exact .inl hnone
    · exact .inr ⟨i, by omega, hlead⟩

/-- The direction that was there before is kept only if no ray has any weight. -/
theorem eq_heading_or (h : Leads weight ray heading seen best heaviest) :
    ((∀ i < seen, weight i ≤ 0) ∧ best = heading) ∨
      ∃ i < seen, best = ray i ∧ 0 < weight i ∧ (∀ j < seen, weight j ≤ weight i) ∧
        ∀ j < i, weight j < weight i := by
  obtain ⟨rfl, rfl⟩ | ⟨i, hi, rfl, rfl, hpos, hfirst⟩ := h.found
  · exact .inl ⟨h.bound, rfl⟩
  · exact .inr ⟨i, hi, rfl, hpos, h.bound, hfirst⟩

theorem eq_heading (h : Leads weight ray heading seen best heaviest)
    (hempty : ∀ i < seen, weight i ≤ 0) : best = heading := by
  obtain ⟨-, hbest⟩ | ⟨i, hi, -, hpos, -⟩ := h.eq_heading_or
  · exact hbest
  · exact absurd (hempty i hi) (not_le.2 hpos)

/-- A ray that is heavier than all others leads. -/
theorem eq_ray (h : Leads weight ray heading seen best heaviest) {k : ℕ} (hk : k < seen)
    (hstrict : ∀ i < seen, i ≠ k → weight i < weight k) (hpos : 0 < weight k) : best = ray k := by
  obtain ⟨hempty, -⟩ | ⟨i, hi, hbest, -, hbound, -⟩ := h.eq_heading_or
  · exact absurd (hempty k hk) (not_le.2 hpos)
  · by_cases hik : i = k
    · rw [hbest, hik]
    · exact absurd (hbound k hk) (not_le.2 (hstrict i hi hik))

end Leads

variable {plan : RoadPlan ℝ} {weight : ℕ → ℝ} {rays : ℕ} {angle : ℝ}

theorem scan_spec
    (hweight : ∀ i < rays,
      rayWeight g start (ray plan.direction rays angle i) plan.length = .ok (weight i))
    {left seen : ℕ} (hleft : seen + left = rays) {best : Vec2 ℝ} {heaviest : ℝ}
    (h : Leads weight (ray plan.direction rays angle) plan.direction seen best heaviest) :
    ∃ d a, scan g start plan angle (angle / Scalar.ofNat rays) left seen best heaviest = .ok d ∧
      Leads weight (ray plan.direction rays angle) plan.direction rays d a := by
  -- The lead is kept or taken over with each ray that is left.
  induction left generalizing seen best heaviest with
  | zero =>
    obtain rfl : seen = rays := hleft
    exact ⟨best, heaviest, rfl, h⟩
  | succ left ih =>
    have hseen : rayWeight g start (plan.direction.rotate
        (-angle / 2.0 + angle / Scalar.ofNat rays * Scalar.ofNat seen)) plan.length =
        .ok (weight seen) := hweight seen (by omega)
    rw [scan, hseen]
    simp only [bind, Except.bind]
    split
    next hlt => exact ih (by omega) (h.step_of_lt hlt)
    next hle => exact ih (by omega) (h.step_of_le (not_lt.1 hle))

/-- A fan turns to the first of the heaviest of its rays, and goes straight on if all are empty. -/
theorem turn_spec (hrays : 0 < rays) (hangle : 0 < angle)
    (hweight : ∀ i < rays,
      rayWeight g start (ray plan.direction rays angle i) plan.length = .ok (weight i)) :
    ∃ d a, turn (fan rays angle) g plan start = .ok { plan with direction := d } ∧
      Leads weight (ray plan.direction rays angle) plan.direction rays d a := by
  obtain ⟨d, a, hscan, hleads⟩ := scan_spec hweight (Nat.zero_add rays)
    (.init weight (ray plan.direction rays angle) plan.direction)
  refine ⟨d, a, ?_, hleads⟩
  have hproper : ¬ (rays = 0 ∨ angle ≤ 0) := by
    rw [not_or, not_le]
    exact ⟨hrays.ne', hangle⟩
  rw [turn, if_neg hproper]
  dsimp only
  rw [hscan]
  rfl

/-! ## Mirror images of a choice -/

section

variable {weight' : ℕ → ℝ} {ray : ℕ → Vec2 ℝ} {heading d d' : Vec2 ℝ} {a' : ℝ} {n k : ℕ}
  (hflip : ∀ i ≤ n, (ray i).flip = ray (n - i))
  (hsame : ∀ i < n, ∀ j < n, ray i = ray j → weight i = weight j)
  (himage : ∀ i < n, ∀ j < n, (ray i).flip = ray j → weight' j = weight i)
  (hheading : heading.flip = heading)
  (hk : k < n) (hstrict : ∀ i < n, i ≠ k → weight i < weight k)
  (hleads : Leads weight' ray heading n d' a')

include hflip himage in
/-- Behind the first one the rays weigh what their images weigh. -/
theorem weight_image {j : ℕ} (hj : j < n) (h0 : j ≠ 0) : weight' j = weight (n - j) :=
  himage (n - j) (by omega) j hj (by rw [hflip _ (by omega)]; congr 1; omega)

include hflip himage hstrict in
theorem eq_of_weight_le {j : ℕ} (hj : j < n) (h0 : j ≠ 0) (hle : weight k ≤ weight' j) :
    n - j = k := by
  by_contra hne
  rw [weight_image hflip himage hj h0] at hle
  exact absurd (hstrict (n - j) (by omega) hne) (not_lt.2 hle)

include hflip himage hk hstrict hleads in
/-- Where the heaviest ray is not the first one, its image is turned to if the first ray is lighter,
and otherwise the first ray. -/
theorem eq_ite_of_ne_zero (hpos : 0 < weight k) (h0 : k ≠ 0) :
    d' = if weight' 0 < weight k then (ray k).flip else ray 0 := by
  have himageWeight : weight' (n - k) = weight k := himage k hk (n - k) (by omega) (hflip k hk.le)
  obtain ⟨hempty, -⟩ | ⟨j, hj, rfl, -, hbound, hfirst⟩ := hleads.eq_heading_or
  · have := hempty (n - k) (by omega)
    rw [himageWeight] at this
    exact absurd this (not_le.2 hpos)
  · have hle : weight k ≤ weight' j := himageWeight ▸ hbound (n - k) (by omega)
    by_cases hj0 : j = 0
    · rw [hj0] at hle ⊢
      exact (if_neg (not_lt.2 hle)).symm
    · have hkj := eq_of_weight_le hflip himage hstrict hj hj0 hle
      have hlt := hfirst 0 (by omega)
      rw [weight_image hflip himage hj hj0, hkj] at hlt
      rw [if_pos hlt, ← hkj, hflip _ (by omega)]
      congr 1
      omega

include hflip hsame himage hheading hstrict hleads in
/-- Where the heaviest ray is the first one, its image is turned to only if it is its own image. -/
theorem eq_flip_iff_of_zero (hn : 0 < n) (hk0 : k = 0) (hpos : 0 < weight k) :
    d' = (ray 0).flip ↔ ray 0 = (ray 0).flip := by
  subst hk0
  have hself (h : ray 0 = (ray 0).flip) : weight' 0 = weight 0 := himage 0 hn 0 hn h.symm
  obtain ⟨hempty, rfl⟩ | ⟨j, hj, rfl, -, -, hfirst⟩ := hleads.eq_heading_or
  · refine ⟨fun h => ?_, fun h => ?_⟩
    · rw [← h, ← hheading, h, Vec2.flip_flip]
    · exact absurd (hself h ▸ hempty 0 hn) (not_le.2 hpos)
  · by_cases hj0 : j = 0
    · rw [hj0]
    · have hlt := hstrict (n - j) (by omega) (by omega)
      refine ⟨fun h => ?_, fun h => ?_⟩
      · -- The image would be one of the rays, and another ray as heavy as the first one.
        have hray : ray (n - j) = ray 0 := by rw [← hflip j hj.le, h, Vec2.flip_flip]
        rw [hsame _ (by omega) 0 hn hray] at hlt
        exact absurd hlt (lt_irrefl _)
      · have := hfirst 0 (by omega)
        rw [hself h, weight_image hflip himage hj hj0] at this
        exact absurd this hlt.not_gt

include hflip himage hk hleads in
/-- Where all rays are empty, straight on is turned to if the first ray goes there, or if the first
ray is empty in the image too. -/
theorem eq_heading_iff_of_nonpos (hempty : ∀ i < n, weight i ≤ 0) :
    d' = heading ↔ ray 0 = heading ∨ weight' 0 ≤ 0 := by
  obtain ⟨hempty', rfl⟩ | ⟨j, hj, rfl, hjpos, -⟩ := hleads.eq_heading_or
  · exact iff_of_true rfl (.inr (hempty' 0 (by omega)))
  · have hj0 : j = 0 := by
      by_contra hj0
      rw [weight_image hflip himage hj hj0] at hjpos
      exact absurd (hempty _ (by omega)) (not_le.2 hjpos)
    subst hj0
    rw [or_iff_left (not_le.2 hjpos)]

include hflip hsame himage hheading hk hstrict hleads in
/-- When the image of the grid makes a fan turn to the image of the direction that it turned to. -/
theorem eq_flip_iff {a : ℝ} (h : Leads weight ray heading n d a) :
    d' = d.flip ↔ ray 0 = d.flip ∨
      if 0 < weight k then k ≠ 0 ∧ weight' 0 < weight k else weight' 0 ≤ 0 := by
  by_cases hpos : 0 < weight k
  · rw [h.eq_ray hk hstrict hpos, if_pos hpos]
    by_cases h0 : k = 0
    · rw [or_iff_left fun hne => hne.1 h0, h0]
      exact eq_flip_iff_of_zero hflip hsame himage hheading hstrict hleads (by omega) h0 hpos
    · rw [eq_ite_of_ne_zero hflip himage hk hstrict hleads hpos h0, and_iff_right h0]
      split
      next hlt => exact iff_of_true rfl (.inr hlt)
      next hle => rw [or_iff_left hle]
  · have hempty : ∀ i < n, weight i ≤ 0 := by
      intro i hi
      by_cases hik : i = k
      · rw [hik]
        exact not_lt.1 hpos
      · exact (hstrict i hi hik).le.trans (not_lt.1 hpos)
    rw [h.eq_heading hempty, hheading, eq_heading_iff_of_nonpos hflip himage hk hleads hempty,
      if_neg hpos]

end

/-! ## A town beside a road -/

/-- Nine cells, in one of which people live. -/
noncomputable def town (x y : ℕ) : Grid ℝ :=
  ⟨3, 3, .ofFn fun i => if (i : ℕ) = y * 3 + x then 1 else 0⟩

theorem get_town {x y : ℕ} (hx : x < 3) {x' y' : ℕ} (hx' : x' < 3) (hy' : y' < 3) :
    (town x y).get x' y' = .ok (if x' = x ∧ y' = y then 1 else 0) := by
  have hcell : y' * 3 + x' = y * 3 + x ↔ x' = x ∧ y' = y := by omega
  have hindex : y' * 3 + x' < 3 * 3 := by omega
  unfold Grid.get town
  rw [Vector.getElem?_eq_getElem hindex, Vector.getElem_ofFn]
  simp only [hcell]

theorem town_mirrorsIn {x y : ℕ} (hx : x < 3) (hy : y < 3) :
    (town x y).MirrorsIn 1 (town x (2 - y)) := by
  intro x' z z' hrow hx' hz _ hz'
  rw [get_town hx hx' hz, get_town hx hx' hz']
  congr 2
  rw [eq_iff_iff]
  omega

/-- A road of two cells along the first axis. -/
noncomputable def lane : RoadPlan ℝ := ⟨(2 : ℕ), ahead, false⟩

theorem samples_lane : samples lane.length = 2 := by
  have hmax : Scalar.max ((2 : ℕ) : ℝ) 0 = ((2 : ℤ) : ℝ) := by
    have hnot : ¬ ((2 : ℕ) : ℝ) < 0 := by norm_num
    unfold Scalar.max
    rw [if_neg hnot]
    simp
  unfold samples lane
  rw [hmax, whole_real_intCast]
  rfl

/-- The cells that are sampled along a road from the middle to a cell beside it. -/
def along (c : ℕ × ℕ) : ℕ → ℕ × ℕ
  | 0 => (1, 1)
  | _ => c

/-- The cells beside the middle one, in the order in which the rays of a full turn go there. -/
def beside : ℕ → ℕ × ℕ
  | 0 => (0, 1)
  | 1 => (1, 2)
  | 2 => (2, 1)
  | _ => (1, 0)

section

variable {c : ℕ × ℕ} {i j x y : ℕ}

theorem sample_lane (hd : direction = ⟨c.1 - 1, c.2 - 1⟩) (hj : j < 2) :
    sample ⟨1, 1⟩ direction j = ⟨(along c j).1, (along c j).2⟩ := by
  have hsample : sample ⟨1, 1⟩ direction j =
      ⟨1 + direction.x * (j : ℝ), 1 + direction.y * (j : ℝ)⟩ := rfl
  rw [hsample, hd]
  interval_cases j <;> simp [along]

theorem along_lt (hc : c.1 < 3 ∧ c.2 < 3) (j : ℕ) : (along c j).1 < 3 ∧ (along c j).2 < 3 := by
  cases j with
  | zero => exact ⟨by simp [along], by simp [along]⟩
  | succ j => exact hc

theorem valueAt_town (hx : x < 3) (hc : c.1 < 3 ∧ c.2 < 3) (hd : direction = ⟨c.1 - 1, c.2 - 1⟩)
    (hj : j < 2) : (town x y).valueAt (sample ⟨1, 1⟩ direction j) =
      .ok (some (if (along c j).1 = x ∧ (along c j).2 = y then 1 else 0)) := by
  have hlt := along_lt hc j
  rw [sample_lane hd hj, Grid.valueAt_natCast hlt.1 hlt.2, get_town hx hlt.1 hlt.2]
  rfl

theorem covers_town (hx : x < 3) (hc : c.1 < 3 ∧ c.2 < 3) (hd : direction = ⟨c.1 - 1, c.2 - 1⟩) :
    Covers (town x y) ⟨1, 1⟩ direction lane.length := by
  refine ⟨fun j hj => ?_, fun j hj k => ?_⟩ <;> rw [samples_lane] at hj
  · exact ⟨_, valueAt_town hx hc hd hj⟩
  · rw [sample_lane hd hj]
    intro h
    have htwice : ((2 * (along c j).2 : ℤ) : ℝ) = (2 * k + 1 : ℤ) := by
      push_cast
      linarith
    have := Int.cast_injective htwice
    omega

/-- A ray through a town that is not in the middle weighs a half. -/
theorem rayWeight_town (hx : x < 3) (hmiddle : ¬ (1 = x ∧ 1 = y)) (hc : c.1 < 3 ∧ c.2 < 3)
    (hd : direction = ⟨c.1 - 1, c.2 - 1⟩) :
    rayWeight (town x y) ⟨1, 1⟩ direction lane.length =
      .ok (if c.1 = x ∧ c.2 = y then 1 / 2 else 0) := by
  rw [rayWeight_eq_sum fun j hj => valueAt_town hx hc hd (samples_lane ▸ hj), samples_lane,
    Finset.sum_range_succ, Finset.sum_range_one]
  refine congrArg Except.ok ?_
  simp only [along, if_neg hmiddle, lane]
  split <;> norm_num

theorem ray_beside (hi : i < 4) :
    ray ahead 4 360 i = ⟨(beside i).1 - 1, (beside i).2 - 1⟩ := by
  have hangle : -360 / 2.0 + 360 / Scalar.ofNat 4 * Scalar.ofNat i = (-180 + 90 * i : ℝ) := by
    change -360 / 2.0 + 360 / ((4 : ℕ) : ℝ) * (i : ℝ) = -180 + 90 * i
    norm_num
  unfold ray
  rw [hangle, rotate_ahead]
  interval_cases i
  all_goals norm_num [beside]

theorem ray_quarter (i : ℕ) : ray ahead 2 180 i = ray ahead 4 360 (i + 1) := by
  have hangle : (-180 / 2.0 + 180 / Scalar.ofNat 2 * Scalar.ofNat i : ℝ) =
      -360 / 2.0 + 360 / Scalar.ofNat 4 * Scalar.ofNat (i + 1) := by
    change -180 / 2.0 + 180 / ((2 : ℕ) : ℝ) * (i : ℝ) =
      -360 / 2.0 + 360 / ((4 : ℕ) : ℝ) * ((i + 1 : ℕ) : ℝ)
    norm_num
    ring
  unfold ray
  rw [hangle]

theorem beside_lt (i : ℕ) : (beside i).1 < 3 ∧ (beside i).2 < 3 := by
  unfold beside
  split <;> decide

end

/-! ## Turns in a mirror -/

section

variable (hrays : 0 < rays) (hangle : 0 < angle) (hheading : plan.direction = ahead)
  (hstart : start.y = row) (hmirror : g.MirrorsIn row g')
  (hcovers : ∀ i < rays, Covers g start (ray ahead rays angle i) plan.length)
  (hcovers' : ∀ i < rays, Covers g' start (ray ahead rays angle i) plan.length)

include hrays hangle hheading hcovers in
theorem exists_turn_leads :
    ∃ (weight : ℕ → ℝ) (d : Vec2 ℝ) (a : ℝ),
      (∀ i < rays, rayWeight g start (ray ahead rays angle i) plan.length = .ok (weight i)) ∧
      turn (fan rays angle) g plan start = .ok { plan with direction := d } ∧
      Leads weight (ray ahead rays angle) ahead rays d a := by
  choose! weight hweight using fun i hi => (hcovers i hi).exists_rayWeight
  obtain ⟨d, a, hturn, hleads⟩ := turn_spec hrays hangle (hheading ▸ hweight)
  exact ⟨weight, d, a, hweight, hturn, hheading ▸ hleads⟩

theorem weight_eq_of_eq {weight : ℕ → ℝ}
    (hweight : ∀ i < rays,
      rayWeight g start (ray ahead rays angle i) plan.length = .ok (weight i))
    {i j : ℕ} (hi : i < rays) (hj : j < rays)
    (heq : ray ahead rays angle i = ray ahead rays angle j) : weight i = weight j := by
  have hsame := hweight i hi
  rw [heq, hweight j hj] at hsame
  exact (Except.ok.inj hsame).symm

include hstart hmirror hcovers hcovers' in
/-- A ray that is the image of another one weighs in the image of the grid what the other weighs. -/
theorem weight_eq_of_flip {weight weight' : ℕ → ℝ}
    (hweight : ∀ i < rays,
      rayWeight g start (ray ahead rays angle i) plan.length = .ok (weight i))
    (hweight' : ∀ i < rays,
      rayWeight g' start (ray ahead rays angle i) plan.length = .ok (weight' i))
    {i j : ℕ} (hi : i < rays) (hj : j < rays)
    (hflip : (ray ahead rays angle i).flip = ray ahead rays angle j) : weight' j = weight i := by
  have hsame := rayWeight_flip hmirror hstart (hcovers i hi) (hflip ▸ hcovers' j hj)
  rw [hflip, hweight' j hj, hweight i hi] at hsame
  exact Except.ok.inj hsame

include hrays hangle hheading hstart hmirror hcovers hcovers' in
/-- A fan of less than a full turn never turns to the image of its first ray: where that ray is the
heaviest, the image of the grid makes it turn elsewhere. -/
theorem turn_ne_flip_of_first (hless : angle < 360) :
    ∃ (weight : ℕ → ℝ) (d d' : Vec2 ℝ),
      (∀ i < rays, rayWeight g start (ray ahead rays angle i) plan.length = .ok (weight i)) ∧
      turn (fan rays angle) g plan start = .ok { plan with direction := d } ∧
      turn (fan rays angle) g' plan start = .ok { plan with direction := d' } ∧
      ((∀ i < rays, i ≠ 0 → weight i < weight 0) → 0 < weight 0 → d' ≠ d.flip) := by
  obtain ⟨weight, d, a, hweight, hturn, hleads⟩ := exists_turn_leads hrays hangle hheading hcovers
  obtain ⟨weight', d', a', hweight', hturn', hleads'⟩ :=
    exists_turn_leads hrays hangle hheading hcovers'
  refine ⟨weight, d, d', hweight, hturn, hturn', fun hstrict hpos => ?_⟩
  have hiff := eq_flip_iff_of_zero (fun i hi => flip_ray hrays hi angle)
    (fun i hi j hj => weight_eq_of_eq hweight hi hj)
    (fun i hi j hj => weight_eq_of_flip hstart hmirror hcovers hcovers' hweight hweight' hi hj)
    flip_ahead hstrict hleads' hrays rfl hpos
  rw [hleads.eq_ray hrays hstrict hpos, Ne, hiff]
  exact ray_zero_ne_flip rays hangle hless

include hrays hangle hheading hstart hmirror hcovers hcovers' in
/-- A fan turns in the mirror image of a grid to the mirror image of the direction that it turned to
in the grid, if one ray is heavier than all others, exactly if the first ray does not stand in the
way: that ray is the mirror image itself; or the heaviest ray is not the first one, and the first
one is lighter in the image of the grid; or all rays are empty, and the first one is in the image
too. -/
theorem turn_flip_iff :
    ∃ (weight : ℕ → ℝ) (first : ℝ) (d d' : Vec2 ℝ),
      (∀ i < rays, rayWeight g start (ray ahead rays angle i) plan.length = .ok (weight i)) ∧
      rayWeight g' start (ray ahead rays angle 0) plan.length = .ok first ∧
      turn (fan rays angle) g plan start = .ok { plan with direction := d } ∧
      turn (fan rays angle) g' plan start = .ok { plan with direction := d' } ∧
      ∀ k < rays, (∀ i < rays, i ≠ k → weight i < weight k) →
        (d' = d.flip ↔ ray ahead rays angle 0 = d.flip ∨
          if 0 < weight k then k ≠ 0 ∧ first < weight k else first ≤ 0) := by
  obtain ⟨weight, d, a, hweight, hturn, hleads⟩ := exists_turn_leads hrays hangle hheading hcovers
  obtain ⟨weight', d', a', hweight', hturn', hleads'⟩ :=
    exists_turn_leads hrays hangle hheading hcovers'
  refine ⟨weight, weight' 0, d, d', hweight, hweight' 0 hrays, hturn, hturn',
    fun k hk hstrict => ?_⟩
  exact eq_flip_iff (fun i hi => flip_ray hrays hi angle)
    (fun i hi j hj => weight_eq_of_eq hweight hi hj)
    (fun i hi j hj => weight_eq_of_flip hstart hmirror hcovers hcovers' hweight hweight' hi hj)
    flip_ahead hk hstrict hleads' hleads

end

/-- Four rays around a full turn: the road turns left to a town on its left, and right to the image
of the town. -/
theorem turn_flip_iff_town :
    ∃ d d', turn (fan 4 360) (town 1 2) lane ⟨1, 1⟩ = .ok { lane with direction := d } ∧
      turn (fan 4 360) (town 1 0) lane ⟨1, 1⟩ = .ok { lane with direction := d' } ∧
      d' = d.flip := by
  have hcovers {x y : ℕ} (hx : x < 3) (i : ℕ) (hi : i < 4) :
      Covers (town x y) ⟨1, 1⟩ (ray ahead 4 360 i) lane.length :=
    covers_town hx (beside_lt i) (ray_beside hi)
  have hrays {y : ℕ} (hy : 1 ≠ y) (i : ℕ) (hi : i < 4) :
      rayWeight (town 1 y) ⟨1, 1⟩ (ray ahead 4 360 i) lane.length =
        .ok (if (beside i).1 = 1 ∧ (beside i).2 = y then 1 / 2 else 0) :=
    rayWeight_town (by decide) (by simpa using hy) (beside_lt i) (ray_beside hi)
  have hangle : (0 : ℝ) < 360 := by norm_num
  have hstart : (⟨1, 1⟩ : Vec2 ℝ).y = (1 : ℤ) := by norm_num
  have hheading : lane.direction = ahead := rfl
  have hmirror : (town 1 2).MirrorsIn 1 (town 1 0) := town_mirrorsIn (by decide) (by decide)
  obtain ⟨weight, first, d, d', hweight, hfirst, hturn, hturn', hiff⟩ :=
    turn_flip_iff (by decide) hangle hheading hstart hmirror (hcovers (by decide))
      (hcovers (by decide))
  have hweights (i : ℕ) (hi : i < 4) :
      weight i = if (beside i).1 = 1 ∧ (beside i).2 = 2 then 1 / 2 else 0 :=
    Except.ok.inj ((hweight i hi).symm.trans (hrays (by decide) i hi))
  have hzero : first = 0 := Except.ok.inj (hfirst.symm.trans (hrays (by decide) 0 (by decide)))
  have hone : weight 1 = 1 / 2 := hweights 1 (by decide)
  refine ⟨d, d', hturn, hturn', (hiff 1 (by decide) fun i hi hne => ?_).2 (.inr ?_)⟩
  · rw [hweights i hi, hone]
    obtain rfl | rfl | rfl : i = 0 ∨ i = 2 ∨ i = 3 := by omega
    all_goals norm_num [beside]
  · rw [hone, hzero]
    norm_num

/-- Two rays, to the left and straight on: the road turns left to a town on its left, but not right
to the image of the town. -/
theorem not_turn_flip :
    (town 1 2).MirrorsIn 1 (town 1 0) ∧
      (∀ i < 2, Covers (town 1 2) ⟨1, 1⟩ (ray ahead 2 180 i) lane.length ∧
        Covers (town 1 0) ⟨1, 1⟩ (ray ahead 2 180 i) lane.length) ∧
      ∃ (weight : ℕ → ℝ) (d d' : Vec2 ℝ),
        (∀ i < 2, rayWeight (town 1 2) ⟨1, 1⟩ (ray ahead 2 180 i) lane.length = .ok (weight i)) ∧
        (∀ i < 2, i ≠ 0 → weight i < weight 0) ∧
        turn (fan 2 180) (town 1 2) lane ⟨1, 1⟩ = .ok { lane with direction := d } ∧
        turn (fan 2 180) (town 1 0) lane ⟨1, 1⟩ = .ok { lane with direction := d' } ∧
        d' ≠ d.flip := by
  have hray (i : ℕ) (hi : i < 2) :
      ray ahead 2 180 i = ⟨(beside (i + 1)).1 - 1, (beside (i + 1)).2 - 1⟩ := by
    rw [ray_quarter, ray_beside (by omega)]
  have hcovers {x y : ℕ} (hx : x < 3) (i : ℕ) (hi : i < 2) :
      Covers (town x y) ⟨1, 1⟩ (ray ahead 2 180 i) lane.length :=
    covers_town hx (beside_lt _) (hray i hi)
  have hangle : (0 : ℝ) < 180 := by norm_num
  have hstart : (⟨1, 1⟩ : Vec2 ℝ).y = (1 : ℤ) := by norm_num
  have hheading : lane.direction = ahead := rfl
  have hmirror : (town 1 2).MirrorsIn 1 (town 1 0) := town_mirrorsIn (by decide) (by decide)
  obtain ⟨weight, d, d', hweight, hturn, hturn', hne⟩ :=
    turn_ne_flip_of_first (by decide) hangle hheading hstart hmirror (hcovers (by decide))
      (hcovers (by decide)) (by norm_num)
  have hweights (i : ℕ) (hi : i < 2) :
      weight i = if (beside (i + 1)).1 = 1 ∧ (beside (i + 1)).2 = 2 then 1 / 2 else 0 :=
    Except.ok.inj ((hweight i hi).symm.trans
      (rayWeight_town (by decide) (by decide) (beside_lt _) (hray i hi)))
  have hzero : weight 0 = 1 / 2 := hweights 0 (by decide)
  have hone : weight 1 = 0 := hweights 1 (by decide)
  have hstrict : ∀ i < 2, i ≠ 0 → weight i < weight 0 := by
    intro i hi h0
    obtain rfl : i = 1 := by omega
    rw [hone, hzero]
    norm_num
  exact ⟨hmirror, fun i hi => ⟨hcovers (by decide) i hi, hcovers (by decide) i hi⟩, weight, d, d',
    hweight, hstrict, hturn, hturn', hne hstrict (by rw [hzero]; norm_num)⟩

end Steering

end Cityscape

import Cityscape.Proofs.Crossing
import Cityscape.Proofs.RoadMap.Directions
import Cityscape.Proofs.Scalar.Rational

/-!
# Common points of segments

In rational numbers the place where two segments cross is computed without an error. Unless the
segments are parallel up to the tolerance, it is found exactly if they have a common point, wherever
that lies on them, and the line of the first one is found to meet the second one exactly if it does.

## Main definitions

* `Segment.points`, `Segment.line` — the points of a segment, and of the line through its ends.
* `FindsOnly` — a search for the only point of a set.

## Main statements

* `Segment.along_eq_along_iff` — how far along two lines they meet.
* `Segment.intersect_common` — what two segments have in common.
-/

namespace Cityscape

/-- The coordinates of a point of the map. -/
def Vec2.coordinates (p : Vec2 ℚ) : ℚ × ℚ := (p.x, p.y)

theorem Vec2.coordinates_injective : Function.Injective Vec2.coordinates := by
  rintro ⟨x, y⟩ ⟨x', y'⟩ h
  cases h
  rfl

/-- The only point of a set was found, or nothing because there is none. -/
def FindsOnly (s : Set (Vec2 ℚ)) : Option (Vec2 ℚ) → Prop
  | some p => s = {p}
  | none => s = ∅

theorem findsOnly_iff {s : Set (Vec2 ℚ)} {found : Option (Vec2 ℚ)} :
    FindsOnly s found ↔ ∀ p, p ∈ s ↔ found = some p := by
  cases found with
  | none => simp [FindsOnly, Set.eq_empty_iff_forall_notMem]
  | some q => simp [FindsOnly, Set.ext_iff, eq_comm]

/-- Only one answer is right. -/
theorem FindsOnly.unique {s : Set (Vec2 ℚ)} {found found' : Option (Vec2 ℚ)}
    (h : FindsOnly s found) (h' : FindsOnly s found') : found = found' :=
  Option.ext fun p => (findsOnly_iff.1 h p).symm.trans (findsOnly_iff.1 h' p)

namespace Segment

open Scalar

/-! ## The points of segments and lines -/

/-- The points of a segment, its ends included. -/
def points (a : Segment ℚ) : Set (Vec2 ℚ) :=
  {p | p.coordinates ∈ segment ℚ a.start.coordinates a.finish.coordinates}

/-- The points of the line through the ends of a segment. -/
def line (a : Segment ℚ) : Set (Vec2 ℚ) :=
  {p | p.coordinates ∈ line[ℚ, a.start.coordinates, a.finish.coordinates]}

/-- The point at a part of the way from the start of a segment to its end. -/
def along (a : Segment ℚ) (t : ℚ) : Vec2 ℚ := a.start + a.span.scale t

variable {a b : Segment ℚ} {p : Vec2 ℚ}

theorem coordinates_along (a : Segment ℚ) (t : ℚ) :
    (a.along t).coordinates =
      a.start.coordinates + t • (a.finish.coordinates - a.start.coordinates) := by
  change (a.start.x + (a.finish.x - a.start.x) * t, a.start.y + (a.finish.y - a.start.y) * t) =
    (a.start.x + t * (a.finish.x - a.start.x), a.start.y + t * (a.finish.y - a.start.y))
  rw [mul_comm t, mul_comm t]

theorem mem_points : p ∈ a.points ↔ ∃ t, (0 ≤ t ∧ t ≤ 1) ∧ a.along t = p := by
  change p.coordinates ∈ segment ℚ _ _ ↔ _
  simp only [segment_eq_image', Set.mem_image, Set.mem_Icc, ← coordinates_along,
    Vec2.coordinates_injective.eq_iff]

theorem mem_line : p ∈ a.line ↔ ∃ t, a.along t = p := by
  change p.coordinates ∈ line[ℚ, _, _] ↔ _
  simp only [mem_affineSpan_pair_iff_exists_lineMap_eq, AffineMap.lineMap_apply, vsub_eq_sub,
    vadd_eq_add, add_comm _ a.start.coordinates, ← coordinates_along,
    Vec2.coordinates_injective.eq_iff]

theorem points_reverse (a : Segment ℚ) : a.reverse.points = a.points := by
  unfold points reverse
  rw [segment_symm]

/-! ## Where lines meet -/

/-- Where two lines that are not parallel meet, told by the part of the way along each. -/
theorem along_eq_along_iff (h : a.span.cross b.span ≠ 0) {t u : ℚ} :
    a.along t = b.along u ↔
      t = (b.start - a.start).cross b.span / a.span.cross b.span ∧
        u = (b.start - a.start).cross a.span / a.span.cross b.span := by
  obtain ⟨⟨px, py⟩, ⟨qx, qy⟩⟩ := a
  obtain ⟨⟨vx, vy⟩, ⟨wx, wy⟩⟩ := b
  change (qx - px) * (wy - vy) - (qy - py) * (wx - vx) ≠ 0 at h
  change Vec2.mk (px + (qx - px) * t) (py + (qy - py) * t) =
      Vec2.mk (vx + (wx - vx) * u) (vy + (wy - vy) * u) ↔
    t = ((vx - px) * (wy - vy) - (vy - py) * (wx - vx)) /
        ((qx - px) * (wy - vy) - (qy - py) * (wx - vx)) ∧
      u = ((vx - px) * (qy - py) - (vy - py) * (qx - px)) /
        ((qx - px) * (wy - vy) - (qy - py) * (wx - vx))
  rw [Vec2.mk.injEq, eq_div_iff h, eq_div_iff h]
  constructor
  · rintro ⟨hx, hy⟩
    constructor
    · linear_combination (wy - vy) * hx - (wx - vx) * hy
    · linear_combination (qy - py) * hx - (qx - px) * hy
  · rintro ⟨ht, hu⟩
    constructor
    · refine mul_right_cancel₀ h ?_
      linear_combination (qx - px) * ht - (wx - vx) * hu
    · refine mul_right_cancel₀ h ?_
      linear_combination (qy - py) * ht - (wy - vy) * hu

/-! ## Crossings -/

/-- What is found of segments that are not parallel: the point where their lines meet, if it lies on
the second segment, or on both. -/
theorem intersect_of_lt (h : tolerance < |a.span.cross b.span|) :
    let t := (b.start - a.start).cross b.span / a.span.cross b.span
    let u := (b.start - a.start).cross a.span / a.span.cross b.span
    (a.intersect b).lines = (if 0 ≤ u ∧ u ≤ 1 then some (a.along t) else none) ∧
      (a.intersect b).segments =
        if (0 ≤ u ∧ u ≤ 1) ∧ 0 ≤ t ∧ t ≤ 1 then some (a.along t) else none := by
  intro t u
  have happrox : ¬ approximately (a.span.cross b.span) 0 = true := by
    change ¬ decide (|a.span.cross b.span - 0| ≤ tolerance) = true
    rw [sub_zero, decide_eq_true_eq]
    exact not_le.2 h
  have hwithin (x : ℚ) : within 0 1 x = true ↔ 0 ≤ x ∧ x ≤ 1 := by
    simp [within]
  unfold intersect
  dsimp only
  rw [if_neg happrox]
  by_cases hu : 0 ≤ u ∧ u ≤ 1
  · rw [if_pos ((hwithin u).2 hu), if_pos hu]
    by_cases ht : 0 ≤ t ∧ t ≤ 1
    · rw [if_pos ((hwithin t).2 ht), if_pos ⟨hu, ht⟩]
      exact ⟨rfl, rfl⟩
    · rw [if_neg (mt (hwithin t).1 ht), if_neg (mt And.right ht)]
      exact ⟨rfl, rfl⟩
  · rw [if_neg (mt (hwithin u).1 hu), if_neg hu, if_neg (mt And.left hu)]
    exact ⟨rfl, rfl⟩

theorem intersect_of_le (h : |a.span.cross b.span| ≤ tolerance) :
    a.intersect b = ⟨none, none⟩ := by
  refine if_pos ?_
  change decide (|a.span.cross b.span - 0| ≤ tolerance) = true
  rw [sub_zero]
  exact decide_eq_true h

theorem cross_ne_zero (h : tolerance < |a.span.cross b.span|) : a.span.cross b.span ≠ 0 := by
  have htolerance : (0 : ℚ) < tolerance := by
    change (0 : ℚ) < 1e-5
    norm_num
  exact abs_pos.1 (htolerance.trans h)

/-- The point is found that the line of the first segment and the second segment have in common. -/
theorem findsOnly_lines (h : tolerance < |a.span.cross b.span|) :
    FindsOnly (a.line ∩ b.points) (a.intersect b).lines := by
  refine findsOnly_iff.2 fun p => ?_
  rw [(intersect_of_lt h).1, Set.mem_inter_iff, mem_line, mem_points]
  constructor
  · rintro ⟨⟨t, ht⟩, u, hu, hp⟩
    obtain ⟨rfl, rfl⟩ := (along_eq_along_iff (cross_ne_zero h)).1 (ht.trans hp.symm)
    rw [if_pos hu, ht]
  · intro hp
    split at hp
    next hu =>
      cases hp
      exact ⟨⟨_, rfl⟩, _, hu, ((along_eq_along_iff (cross_ne_zero h)).2 ⟨rfl, rfl⟩).symm⟩
    · cases hp

/-- The point is found that two segments have in common. -/
theorem findsOnly_segments (h : tolerance < |a.span.cross b.span|) :
    FindsOnly (a.points ∩ b.points) (a.intersect b).segments := by
  refine findsOnly_iff.2 fun p => ?_
  rw [(intersect_of_lt h).2, Set.mem_inter_iff, mem_points, mem_points]
  constructor
  · rintro ⟨⟨t, ht, hp⟩, u, hu, hq⟩
    obtain ⟨rfl, rfl⟩ := (along_eq_along_iff (cross_ne_zero h)).1 (hp.trans hq.symm)
    rw [if_pos ⟨hu, ht⟩, hp]
  · intro hp
    split at hp
    next hin =>
      cases hp
      exact ⟨⟨_, hin.2, rfl⟩, _, hin.1,
        ((along_eq_along_iff (cross_ne_zero h)).2 ⟨rfl, rfl⟩).symm⟩
    · cases hp

/-! ## The order and the directions of segments -/

/-- Segments with the same points in common that are as far from parallel are found to have the same
point in common. -/
theorem segments_congr {a' b' : Segment ℚ}
    (hcross : |a'.span.cross b'.span| = |a.span.cross b.span|)
    (hpoints : a'.points ∩ b'.points = a.points ∩ b.points) :
    (a'.intersect b').segments = (a.intersect b).segments := by
  by_cases h : tolerance < |a.span.cross b.span|
  · exact (findsOnly_segments (hcross ▸ h)).unique (hpoints ▸ findsOnly_segments h)
  · rw [intersect_of_le (not_lt.1 h), intersect_of_le (hcross ▸ not_lt.1 h)]

theorem cross_comm (v w : Vec2 ℚ) : w.cross v = -v.cross w := by
  change w.x * v.y - w.y * v.x = -(v.x * w.y - v.y * w.x)
  ring

theorem cross_span_reverse (a : Segment ℚ) (v : Vec2 ℚ) :
    a.reverse.span.cross v = -a.span.cross v := by
  change (a.start.x - a.finish.x) * v.y - (a.start.y - a.finish.y) * v.x =
    -((a.finish.x - a.start.x) * v.y - (a.finish.y - a.start.y) * v.x)
  ring

theorem segments_comm (a b : Segment ℚ) :
    (b.intersect a).segments = (a.intersect b).segments :=
  segments_congr (by rw [cross_comm, abs_neg]) (Set.inter_comm _ _)

theorem segments_reverse_left (a b : Segment ℚ) :
    (a.reverse.intersect b).segments = (a.intersect b).segments :=
  segments_congr (by rw [cross_span_reverse, abs_neg]) (by rw [points_reverse])

theorem segments_reverse_right (a b : Segment ℚ) :
    (a.intersect b.reverse).segments = (a.intersect b).segments := by
  rw [← segments_comm, segments_reverse_left, segments_comm]

/-- Of two segments that are not parallel up to the tolerance exactly the point is found that they
have in common, if there is one, and exactly the point where the line of the first one meets the
second one, if it does; of other segments nothing is found. The order and the directions of two
segments do not matter to what they have in common. -/
theorem intersect_common (a b : Segment ℚ) :
    (tolerance < |a.span.cross b.span| →
      FindsOnly (a.points ∩ b.points) (a.intersect b).segments ∧
        FindsOnly (a.line ∩ b.points) (a.intersect b).lines) ∧
      (|a.span.cross b.span| ≤ tolerance → a.intersect b = ⟨none, none⟩) ∧
      (∀ p, (a.intersect b).segments = some p → (a.intersect b).lines = some p) ∧
      (b.intersect a).segments = (a.intersect b).segments ∧
      (a.reverse.intersect b).segments = (a.intersect b).segments ∧
      (a.intersect b.reverse).segments = (a.intersect b).segments :=
  ⟨fun h => ⟨findsOnly_segments h, findsOnly_lines h⟩, intersect_of_le,
    fun _ => lines_of_segments, segments_comm a b, segments_reverse_left a b,
    segments_reverse_right a b⟩

/-- A segment that another one crosses at its end: they have the end in common, also when the other
one comes first. -/
theorem intersect_common_atEnd :
    let a : Segment ℚ := ⟨⟨0, 0⟩, ⟨4, 0⟩⟩
    let b : Segment ℚ := ⟨⟨6, -2⟩, ⟨2, 2⟩⟩
    tolerance < |a.span.cross b.span| ∧ (a.intersect b).segments = some ⟨4, 0⟩ ∧
      a.points ∩ b.points = {⟨4, 0⟩} ∧ a.line ∩ b.points = {⟨4, 0⟩} ∧
      (b.intersect a).segments = some ⟨4, 0⟩ := by
  intro a b
  have hcross : tolerance < |a.span.cross b.span| := by decide +kernel
  have hfound : (a.intersect b).segments = some ⟨4, 0⟩ :=
    Option.map_injective Vec2.coordinates_injective (by decide +kernel)
  obtain ⟨hcommon, -, hlines, hcomm, -⟩ := intersect_common a b
  obtain ⟨hpoints, hline⟩ := hcommon hcross
  rw [hfound] at hpoints hcomm
  rw [hlines _ hfound] at hline
  exact ⟨hcross, hfound, hpoints, hline, hcomm⟩

end Segment

end Cityscape
